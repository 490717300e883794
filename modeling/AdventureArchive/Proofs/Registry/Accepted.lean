import AdventureArchive.Proofs.Fallible
import AdventureArchive.Proofs.Program.Instruction
import Mathlib.Data.List.Induction

namespace AdventureArchive

/-!
# Which descriptors make a registry

A list of descriptors makes a registry exactly if all of them belong to the
instruction set and no opcode is repeated; the registry then holds exactly these
descriptors, whatever their order was.  Of any other list the first descriptor
is reported that repeats an opcode or does not belong to the instruction set
(`OpcodeRegistry.ofList_accepts`).

What one more descriptor can come to is told by `RegisterOf`, and for a registry
that holds the descriptors in front of it by `Lists.faultOf_of_register`,
`Lists.register_of_faultOf` and `Lists.register`.
-/

open Instruction (Descriptor)

/-- What can come of adding a descriptor to a registry. -/
inductive RegisterOf (registry : OpcodeRegistry) (descriptor : Descriptor) :
    Except RegistryError OpcodeRegistry → Prop where
  | repeated
      {existing : Descriptor}
      (held : registry.slots.get? descriptor.opcode = some existing) :
      RegisterOf registry descriptor
        (.error (.duplicateOpcode descriptor.opcode existing.name descriptor.name))
  | unknown
      (isNew : registry.slots.get? descriptor.opcode = none)
      (missing :
        Instruction.descriptors.find? (fun known => known.opcode == descriptor.opcode) = none) :
      RegisterOf registry descriptor
        (.error (.noPayloadLayout descriptor.opcode descriptor.name))
  | mismatched
      {expected : Descriptor}
      (isNew : registry.slots.get? descriptor.opcode = none)
      (found :
        Instruction.descriptors.find? (fun known => known.opcode == descriptor.opcode) =
          some expected)
      (differs : expected ≠ descriptor) :
      RegisterOf registry descriptor
        (.error (.layoutMismatch
          descriptor.opcode descriptor.name descriptor.width expected.name expected.width))
  | registered
      {next : OpcodeRegistry}
      (isNew : registry.slots.get? descriptor.opcode = none)
      (found :
        Instruction.descriptors.find? (fun known => known.opcode == descriptor.opcode) =
          some descriptor)
      (inserted : next.slots = registry.slots.insert descriptor.opcode descriptor) :
      RegisterOf registry descriptor (.ok next)

/-- Adding a descriptor does one of the things that it can do. -/
theorem OpcodeRegistry.registerOf_register
    (registry : OpcodeRegistry)
    (descriptor : Descriptor) :
    RegisterOf registry descriptor (registry.register descriptor) := by
  unfold register
  split
  next existing held => exact .repeated held
  next isNew =>
    split
    next missing => exact .unknown isNew missing
    next expected found =>
      split
      next agrees =>
        obtain rfl := agrees
        exact .registered isNew found rfl
      next differs => exact .mismatched isNew found differs

namespace OpcodeRegistry

/-- Descriptors are listed with ascending opcodes. -/
theorem ascending_descriptors (registry : OpcodeRegistry) :
    registry.descriptors.Pairwise fun first second => first.opcode < second.opcode := by
  rw [descriptors, SortedMap.values, List.pairwise_map]
  apply registry.slots.ascending.imp_of_mem
  intro first second firstHeld secondHeld below
  rw [(registry.ofInstructionSet first firstHeld).2,
    (registry.ofInstructionSet second secondHeld).2]
  exact below

/-! ## Faults -/

variable {registry : OpcodeRegistry} {listed earlier : List Descriptor} {descriptor : Descriptor}

/-- Whether a descriptor cannot be listed behind others. -/
def Faulty (earlier : List Descriptor) (descriptor : Descriptor) : Prop :=
  (∃ first ∈ earlier, first.opcode = descriptor.opcode) ∨
    descriptor ∉ Instruction.descriptors

/--
What is wrong with a descriptor behind others: its opcode has been listed
already; or it has not, and the instruction set has another descriptor for it or
none.
-/
inductive FaultOf
    (earlier : List Descriptor)
    (descriptor : Descriptor) :
    RegistryError → Prop where
  | duplicateOpcode
      {first : Descriptor}
      (listed : first ∈ earlier)
      (sameOpcode : first.opcode = descriptor.opcode) :
      FaultOf earlier descriptor
        (.duplicateOpcode descriptor.opcode first.name descriptor.name)
  | layoutMismatch
      {known : Descriptor}
      (isNew : ∀ first ∈ earlier, first.opcode ≠ descriptor.opcode)
      (inSet : known ∈ Instruction.descriptors)
      (sameOpcode : known.opcode = descriptor.opcode)
      (differs : known ≠ descriptor) :
      FaultOf earlier descriptor
        (.layoutMismatch
          descriptor.opcode descriptor.name descriptor.width known.name known.width)
  | noPayloadLayout
      (isNew : ∀ first ∈ earlier, first.opcode ≠ descriptor.opcode)
      (unknown : ∀ known ∈ Instruction.descriptors, known.opcode ≠ descriptor.opcode) :
      FaultOf earlier descriptor (.noPayloadLayout descriptor.opcode descriptor.name)

/-- A descriptor with a fault is faulty. -/
theorem FaultOf.faulty
    {fault : RegistryError}
    (found : FaultOf earlier descriptor fault) :
    Faulty earlier descriptor := by
  cases found with
  | duplicateOpcode listed sameOpcode => exact .inl ⟨_, listed, sameOpcode⟩
  | layoutMismatch isNew inSet sameOpcode differs =>
      refine .inr fun descriptorInSet => differs ?_
      have knownFound := Instruction.find?_descriptors_eq_some_iff.mpr ⟨inSet, sameOpcode⟩
      rw [Instruction.find?_of_mem_descriptors descriptorInSet] at knownFound
      exact (Option.some.inj knownFound).symm
  | noPayloadLayout isNew unknown => exact .inr fun inSet => unknown _ inSet rfl

/-- Whether a registry holds the descriptors of a list and no others. -/
structure Lists (registry : OpcodeRegistry) (listed : List Descriptor) : Prop where
  distinct : listed.Pairwise fun first second => first.opcode ≠ second.opcode
  held_iff : ∀ descriptor, descriptor ∈ registry.descriptors ↔ descriptor ∈ listed

theorem lists_empty : Lists empty [] where
  distinct := .nil
  held_iff := fun _ => Iff.rfl

/-- A descriptor is held if its opcode is held with it. -/
theorem mem_descriptors_iff :
    descriptor ∈ registry.descriptors ↔
      registry.slots.get? descriptor.opcode = some descriptor := by
  rw [get?_slots_eq_some_iff, and_iff_left rfl]

/-- An opcode that has been listed is held, with the descriptor it has been listed for. -/
theorem Lists.get?_eq_some_iff
    (lists : Lists registry listed)
    {opcode : UInt8} :
    registry.slots.get? opcode = some descriptor ↔
      descriptor ∈ listed ∧ descriptor.opcode = opcode := by
  rw [get?_slots_eq_some_iff, lists.held_iff]

/-- An opcode that has not been listed is not held. -/
theorem Lists.get?_eq_none_iff
    (lists : Lists registry listed)
    {opcode : UInt8} :
    registry.slots.get? opcode = none ↔ ∀ first ∈ listed, first.opcode ≠ opcode := by
  rw [Option.eq_none_iff_forall_ne_some]
  constructor
  · intro absent first member sameOpcode
    exact absent first (lists.get?_eq_some_iff.mpr ⟨member, sameOpcode⟩)
  · intro isNew first held
    obtain ⟨member, sameOpcode⟩ := lists.get?_eq_some_iff.mp held
    exact isNew first member sameOpcode

/-- What a descriptor is refused for is wrong with it. -/
theorem Lists.faultOf_of_register
    (lists : Lists registry earlier)
    {fault : RegistryError}
    (refused : registry.register descriptor = .error fault) :
    FaultOf earlier descriptor fault := by
  have came := registry.registerOf_register descriptor
  rw [refused] at came
  cases came with
  | repeated held =>
      obtain ⟨member, sameOpcode⟩ := lists.get?_eq_some_iff.mp held
      exact .duplicateOpcode member sameOpcode
  | unknown isNew missing =>
      refine .noPayloadLayout (lists.get?_eq_none_iff.mp isNew) ?_
      simpa using missing
  | mismatched isNew found differs =>
      obtain ⟨inSet, sameOpcode⟩ := Instruction.find?_descriptors_eq_some_iff.mp found
      exact .layoutMismatch (lists.get?_eq_none_iff.mp isNew) inSet sameOpcode differs

/-- A descriptor with which something is wrong is refused for that. -/
theorem Lists.register_of_faultOf
    (lists : Lists registry earlier)
    {fault : RegistryError}
    (wrong : FaultOf earlier descriptor fault) :
    registry.register descriptor = .error fault := by
  unfold register
  cases wrong with
  | duplicateOpcode member sameOpcode =>
      rw [lists.get?_eq_some_iff.mpr ⟨member, sameOpcode⟩]
  | layoutMismatch isNew inSet sameOpcode differs =>
      have knownFound := Instruction.find?_descriptors_eq_some_iff.mpr ⟨inSet, sameOpcode⟩
      rw [lists.get?_eq_none_iff.mpr isNew]
      dsimp only
      split
      next missing =>
        rw [knownFound] at missing
        contradiction
      next expected found =>
        rw [knownFound] at found
        obtain rfl := Option.some.inj found
        rw [dif_neg differs]
  | noPayloadLayout isNew unknown =>
      rw [lists.get?_eq_none_iff.mpr isNew]
      dsimp only
      split
      next => rfl
      next expected found =>
        obtain ⟨inSet, sameOpcode⟩ := Instruction.find?_descriptors_eq_some_iff.mp found
        exact absurd sameOpcode (unknown expected inSet)

/-- A descriptor that is added is not faulty, and is listed from then on. -/
theorem Lists.register
    (lists : Lists registry earlier)
    {next : OpcodeRegistry}
    (accepted : registry.register descriptor = .ok next) :
    ¬ Faulty earlier descriptor ∧ Lists next (earlier ++ [descriptor]) := by
  have came := registry.registerOf_register descriptor
  rw [accepted] at came
  cases came with
  | registered isNew found inserted =>
      have isNewOpcode := lists.get?_eq_none_iff.mp isNew
      constructor
      · rintro (⟨first, member, sameOpcode⟩ | notInSet)
        · exact isNewOpcode first member sameOpcode
        · exact notInSet (List.mem_of_find?_eq_some found)
      · constructor
        case distinct =>
          apply List.pairwise_append.mpr
          refine ⟨lists.distinct, List.pairwise_singleton _ _, ?_⟩
          simpa using isNewOpcode
        case held_iff =>
          intro other
          rw [mem_descriptors_iff, inserted, SortedMap.get?_insert, List.mem_append,
            List.mem_singleton]
          split
          next sameOpcode =>
            have notListed : other ∉ earlier := fun member =>
              isNewOpcode other member sameOpcode.symm
            rw [Option.some.injEq, eq_comm, or_iff_right notListed]
          next otherOpcode =>
            have different : other ≠ descriptor := fun same =>
              otherOpcode (congrArg (·.opcode) same).symm
            rw [← mem_descriptors_iff, lists.held_iff, or_iff_left different]

/-- Registries of lists with the same descriptors are the same. -/
theorem Lists.eq_of_perm
    (lists : Lists registry listed)
    {other : OpcodeRegistry}
    {others : List Descriptor}
    (otherLists : Lists other others)
    (same : others.Perm listed) :
    other = registry := by
  suffices sameSlots : other.slots = registry.slots by
    cases other
    cases registry
    congr
  apply SortedMap.ext_mem
  rintro ⟨opcode, descriptor⟩
  rw [← SortedMap.get?_eq_some_iff, ← SortedMap.get?_eq_some_iff, lists.get?_eq_some_iff,
    otherLists.get?_eq_some_iff, same.mem_iff]

/-! ## Lists -/

/-- Whether all descriptors of a list belong to the instruction set, each opcode at most once. -/
structure Acceptable (listed : List Descriptor) : Prop where
  inSet : ∀ descriptor ∈ listed, descriptor ∈ Instruction.descriptors
  distinct : listed.Pairwise fun first second => first.opcode ≠ second.opcode

/-- Whether a property holds of the descriptor at an index, behind those in front of it. -/
def At
    (property : List Descriptor → Descriptor → Prop)
    (listed : List Descriptor)
    (index : Nat) : Prop :=
  ∃ descriptor, listed[index]? = some descriptor ∧ property (listed.take index) descriptor

/-- The first faulty descriptor of a list is at an index, with a fault. -/
structure FirstFault (listed : List Descriptor) (index : Nat) (fault : RegistryError) : Prop where
  found : At (FaultOf · · fault) listed index
  least : ∀ earlier < index, ¬ At Faulty listed earlier

/-- What follows a list changes nothing at its indices. -/
theorem at_append_iff
    {property : List Descriptor → Descriptor → Prop}
    {index : Nat}
    (inside : index < listed.length)
    (others : List Descriptor) :
    At property (listed ++ others) index ↔ At property listed index := by
  rw [At, At, List.getElem?_append_left inside, List.take_append_of_le_length (Nat.le_of_lt inside)]

/-- At the end of a list stands the descriptor that has been added last. -/
theorem at_concat_iff {property : List Descriptor → Descriptor → Prop} :
    At property (listed ++ [descriptor]) listed.length ↔ property listed descriptor := by
  simp [At]

/-- Something can only be said of an index inside of the list. -/
theorem At.inside
    {property : List Descriptor → Descriptor → Prop}
    {index : Nat}
    (holds : At property listed index) :
    index < listed.length := by
  obtain ⟨descriptor, found, -⟩ := holds
  exact (List.getElem?_eq_some_iff.mp found).1

/-- Whether a fault is the first one of a list does not depend on what follows it. -/
theorem firstFault_append_iff
    {index : Nat}
    {fault : RegistryError}
    (inside : index < listed.length)
    (others : List Descriptor) :
    FirstFault (listed ++ others) index fault ↔ FirstFault listed index fault := by
  have unchanged :
      ∀ earlier < index, At Faulty (listed ++ others) earlier ↔ At Faulty listed earlier :=
    fun _ before => at_append_iff (Nat.lt_trans before inside) others
  constructor
  · intro isFirst
    refine ⟨(at_append_iff inside others).mp isFirst.found, fun earlier before => ?_⟩
    rw [← unchanged earlier before]
    exact isFirst.least earlier before
  · intro isFirst
    refine ⟨(at_append_iff inside others).mpr isFirst.found, fun earlier before => ?_⟩
    rw [unchanged earlier before]
    exact isFirst.least earlier before

/-- The descriptor with the first fault is faulty. -/
theorem FirstFault.faulty
    {index : Nat}
    {fault : RegistryError}
    (isFirst : FirstFault listed index fault) :
    At Faulty listed index := by
  obtain ⟨descriptor, found, hasFault⟩ := isFirst.found
  exact ⟨descriptor, found, hasFault.faulty⟩

/-- Nothing is faulty in an acceptable list. -/
theorem Acceptable.not_faulty
    (acceptable : Acceptable listed)
    (index : Nat) :
    ¬ At Faulty listed index := by
  rintro ⟨descriptor, found, faulty⟩
  have split : listed.take index ++ descriptor :: listed.drop (index + 1) = listed := by
    obtain ⟨inside, rfl⟩ := List.getElem?_eq_some_iff.mp found
    rw [← List.drop_eq_getElem_cons inside, List.take_append_drop]
  have member : descriptor ∈ listed := List.mem_of_getElem? found
  rcases faulty with ⟨first, inFront, sameOpcode⟩ | notInSet
  · have distinct := acceptable.distinct
    rw [← split, List.pairwise_append] at distinct
    exact distinct.2.2 first inFront descriptor List.mem_cons_self sameOpcode
  · exact notInSet (acceptable.inSet descriptor member)

/-- What a registry holds is acceptable. -/
theorem Lists.acceptable (lists : Lists registry listed) : Acceptable listed where
  inSet := fun descriptor member =>
    mem_instructionSet_of_held ((lists.held_iff descriptor).mpr member)
  distinct := lists.distinct

/-- A descriptor at the end of a list is added last. -/
theorem ofList_concat (listed : List Descriptor) (descriptor : Descriptor) :
    ofList (listed ++ [descriptor]) =
      ofList listed >>= fun registry => registry.register descriptor := by
  rw [ofList, List.foldlM_append, ofList]
  congr
  funext registry
  exact bind_pure _

/-- A list comes to a registry that holds it, or to its first fault. -/
theorem ofList_cases (listed : List Descriptor) :
    (∃ registry, ofList listed = .ok registry ∧ Lists registry listed) ∨
      ∃ index fault, ofList listed = .error fault ∧ FirstFault listed index fault := by
  induction listed using List.reverseRecOn with
  | nil => exact .inl ⟨empty, rfl, lists_empty⟩
  | append_singleton listed descriptor inductionHypothesis =>
      rw [ofList_concat]
      rcases inductionHypothesis with
        ⟨registry, accepted, lists⟩ | ⟨index, fault, refused, isFirst⟩
      · rw [accepted, Except.ok_bind]
        match registered : registry.register descriptor with
        | .ok next => exact .inl ⟨next, rfl, (lists.register registered).2⟩
        | .error fault =>
            have found := lists.faultOf_of_register registered
            refine .inr ⟨listed.length, fault, rfl, at_concat_iff.mpr found, ?_⟩
            intro earlier before
            rw [at_append_iff before]
            exact lists.acceptable.not_faulty earlier
      · rw [refused]
        have stillFirst := (firstFault_append_iff isFirst.found.inside [descriptor]).mpr isFirst
        exact .inr ⟨index, fault, rfl, stillFirst⟩

/-- A list that is acceptable has a registry, which holds it. -/
theorem ofList_of_acceptable (acceptable : Acceptable listed) :
    ∃ registry, ofList listed = .ok registry ∧ Lists registry listed := by
  rcases ofList_cases listed with accepted | ⟨index, fault, -, isFirst⟩
  · exact accepted
  · exact absurd isFirst.faulty (acceptable.not_faulty index)

/-- A list that has a registry is held by it. -/
theorem lists_of_ofList (accepted : ofList listed = .ok registry) : Lists registry listed := by
  rcases ofList_cases listed with ⟨other, otherAccepted, lists⟩ | ⟨-, fault, refused, -⟩
  · rw [accepted] at otherAccepted
    obtain rfl := Except.ok.inj otherAccepted
    exact lists
  · rw [accepted] at refused
    contradiction

/-- The first fault of a list is reported. -/
theorem ofList_of_firstFault
    {index : Nat}
    {fault : RegistryError}
    (isFirst : FirstFault listed index fault) :
    ofList listed = .error fault := by
  induction listed using List.reverseRecOn with
  | nil => exact absurd isFirst.found.inside (Nat.not_lt_zero index)
  | append_singleton listed descriptor inductionHypothesis =>
      rw [ofList_concat]
      by_cases inside : index < listed.length
      · rw [inductionHypothesis ((firstFault_append_iff inside _).mp isFirst)]
        rfl
      · have atEnd : index = listed.length := by
          have bound := isFirst.found.inside
          rw [List.length_append, List.length_singleton] at bound
          omega
        obtain rfl := atEnd
        rcases ofList_cases listed with
          ⟨registry, accepted, lists⟩ | ⟨earlier, _, -, earlierFirst⟩
        · rw [accepted, Except.ok_bind]
          exact lists.register_of_faultOf (at_concat_iff.mp isFirst.found)
        · have before := earlierFirst.found.inside
          exact absurd ((at_append_iff before _).mpr earlierFirst.faulty)
            (isFirst.least earlier before)

/-- What it means that a registry is the one of a list. -/
structure HoldsExactly (registry : OpcodeRegistry) (listed : List Descriptor) : Prop where
  found_iff :
    ∀ opcode descriptor,
      registry.lookup opcode = .ok descriptor ↔
        descriptor ∈ listed ∧ descriptor.opcode = opcode
  missing_iff :
    ∀ opcode,
      registry.lookup opcode = .error (.unknownOpcode opcode) ↔
        ∀ descriptor ∈ listed, descriptor.opcode ≠ opcode
  sameDescriptors : registry.descriptors.Perm listed
  ascending : registry.descriptors.Pairwise fun first second => first.opcode < second.opcode
  size_eq : registry.size = listed.length
  anyOrder : ∀ others, others.Perm listed → ofList others = .ok registry

/-- A registry lists the descriptors that it holds. -/
theorem Lists.perm (lists : Lists registry listed) : registry.descriptors.Perm listed := by
  rw [List.perm_ext_iff_of_nodup]
  · exact lists.held_iff
  · apply registry.ascending_descriptors.imp
    rintro first _ below rfl
    exact UInt8.lt_irrefl _ below
  · apply lists.distinct.imp
    rintro first _ different rfl
    exact different rfl

/-- Acceptable lists stay acceptable in any order. -/
theorem Acceptable.perm
    (acceptable : Acceptable listed)
    {others : List Descriptor}
    (same : others.Perm listed) :
    Acceptable others where
  inSet := fun descriptor member => acceptable.inSet descriptor (same.mem_iff.mp member)
  distinct := same.symm.pairwise acceptable.distinct fun different => different.symm

/-- What a registry holds is exactly what can be found in it. -/
theorem Lists.holdsExactly (lists : Lists registry listed) : HoldsExactly registry listed where
  found_iff := by
    intro opcode descriptor
    rw [lookup_eq_ok_iff, lists.held_iff]
  missing_iff := by
    intro opcode
    rw [lookup_eq_error_iff, and_iff_left rfl]
    simp only [lists.held_iff]
  sameDescriptors := lists.perm
  ascending := registry.ascending_descriptors
  size_eq := by
    rw [← lists.perm.length_eq, descriptors, SortedMap.values, List.length_map,
      SortedMap.length_toList, size]
  anyOrder := by
    intro others same
    obtain ⟨other, accepted, otherLists⟩ := ofList_of_acceptable (lists.acceptable.perm same)
    rw [accepted, lists.eq_of_perm otherLists same]

/--
Of descriptors a registry is made exactly if they belong to the instruction set
and no opcode is repeated.  It holds exactly these descriptors and does not
depend on their order.  Otherwise the first descriptor that cannot be listed
behind the ones in front of it is reported.
-/
theorem ofList_accepts (listed : List Descriptor) :
    ((∃ registry, ofList listed = .ok registry) ↔ Acceptable listed) ∧
      (∀ registry, ofList listed = .ok registry → HoldsExactly registry listed) ∧
      ∀ fault, ofList listed = .error fault ↔ ∃ index, FirstFault listed index fault := by
  refine ⟨⟨?_, ?_⟩, ?_, fun fault => ⟨?_, ?_⟩⟩
  · rintro ⟨registry, accepted⟩
    exact (lists_of_ofList accepted).acceptable
  · intro acceptable
    obtain ⟨registry, accepted, -⟩ := ofList_of_acceptable acceptable
    exact ⟨registry, accepted⟩
  · intro registry accepted
    exact (lists_of_ofList accepted).holdsExactly
  · intro refused
    rcases ofList_cases listed with ⟨registry, accepted, -⟩ | ⟨index, other, same, isFirst⟩
    · rw [refused] at accepted
      contradiction
    · rw [refused] at same
      obtain rfl := Except.error.inj same
      exact ⟨index, isFirst⟩
  · rintro ⟨index, isFirst⟩
    exact ofList_of_firstFault isFirst

end OpcodeRegistry

end AdventureArchive
