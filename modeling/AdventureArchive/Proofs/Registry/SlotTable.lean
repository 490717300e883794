import AdventureArchive.Proofs.Registry.Accepted
import Mathlib.Data.List.FinRange
import Mathlib.Data.List.Sort

namespace AdventureArchive

/-!
# Registries as tables of slots

A registry can be kept in a table with a slot for each of the 256 opcodes, in
which a descriptor is put where its opcode points.  Such a table is filled from
a list exactly as a registry is, with the same faults
(`OpcodeRegistry.ofList_slotTable`), and what is looked up or listed afterwards
is the same (`OpcodeRegistry.lookup_slotTable`,
`OpcodeRegistry.descriptors_slotTable`).
-/

open Instruction (Descriptor)

/-- A slot for each opcode, empty or with the descriptor that has been registered for it. -/
structure SlotTable where
  slots : Vector (Option Descriptor) 256

namespace SlotTable

/-- A table with empty slots only. -/
def empty : SlotTable := ⟨.replicate 256 none⟩

/-- The slot of an opcode. -/
def slot (table : SlotTable) (opcode : UInt8) : Option Descriptor :=
  have inside : opcode.toNat < 256 := opcode.toNat_lt
  table.slots[opcode.toNat]

/-- Puts a descriptor into the slot of its opcode. -/
def put (table : SlotTable) (descriptor : Descriptor) : SlotTable where
  slots := table.slots.set descriptor.opcode.toNat (some descriptor) descriptor.opcode.toNat_lt

/-- Whether a descriptor is the one of the instruction set with its opcode. -/
def checkLayout (descriptor : Descriptor) : Except RegistryError Unit :=
  match Instruction.descriptors.find? fun known => known.opcode == descriptor.opcode with
  | some known =>
      if known = descriptor then
        .ok ()
      else
        .error (.layoutMismatch
          descriptor.opcode descriptor.name descriptor.width known.name known.width)
  | none => .error (.noPayloadLayout descriptor.opcode descriptor.name)

/-- Fills the slot of a descriptor, which has to be empty. -/
def register (table : SlotTable) (descriptor : Descriptor) : Except RegistryError SlotTable :=
  match table.slot descriptor.opcode with
  | some existing =>
      .error (.duplicateOpcode descriptor.opcode existing.name descriptor.name)
  | none => do
      checkLayout descriptor
      return table.put descriptor

/-- The table of a list of descriptors. -/
def ofList (descriptors : List Descriptor) : Except RegistryError SlotTable :=
  descriptors.foldlM register empty

/-- The descriptor of an opcode. -/
def lookup (table : SlotTable) (opcode : UInt8) : Except InstructionError Descriptor :=
  match table.slot opcode with
  | some descriptor => .ok descriptor
  | none => .error (.unknownOpcode opcode)

/-- What the slots hold, in their order. -/
def descriptors (table : SlotTable) : List Descriptor :=
  table.slots.toList.filterMap id

/-- Tables with the same slots are the same. -/
theorem ext_slot
    {first second : SlotTable}
    (sameSlots : ∀ opcode, first.slot opcode = second.slot opcode) :
    first = second := by
  suffices same : first.slots = second.slots by
    cases first
    cases second
    exact congrArg SlotTable.mk same
  apply Vector.ext
  intro index inside
  simpa [slot, Nat.mod_eq_of_lt inside] using sameSlots (UInt8.ofNat index)

@[simp] theorem slot_empty (opcode : UInt8) : empty.slot opcode = none := by
  simp [slot, empty]

/-- A descriptor is put into its own slot only. -/
theorem slot_put (table : SlotTable) (descriptor : Descriptor) (opcode : UInt8) :
    (table.put descriptor).slot opcode =
      if descriptor.opcode = opcode then some descriptor else table.slot opcode := by
  simp only [slot, put, Vector.getElem_set, UInt8.toNat_inj]

end SlotTable

namespace OpcodeRegistry

/-- The slots that a registry fills. -/
def slotTable (registry : OpcodeRegistry) : SlotTable where
  slots := .ofFn fun opcode => registry.slots.get? (UInt8.ofFin opcode)

@[simp] theorem slot_slotTable (registry : OpcodeRegistry) (opcode : UInt8) :
    registry.slotTable.slot opcode = registry.slots.get? opcode := by
  simp only [SlotTable.slot, slotTable, Vector.getElem_ofFn]
  rfl

/-- A descriptor that is added fills its slot. -/
theorem slotTable_of_inserted
    {registry next : OpcodeRegistry}
    {descriptor : Descriptor}
    (inserted : next.slots = registry.slots.insert descriptor.opcode descriptor) :
    next.slotTable = registry.slotTable.put descriptor := by
  apply SlotTable.ext_slot
  intro opcode
  rw [slot_slotTable, inserted, SortedMap.get?_insert, SlotTable.slot_put, slot_slotTable]

/-- Slots are filled as a registry is, with the same faults. -/
theorem register_slotTable (registry : OpcodeRegistry) (descriptor : Descriptor) :
    registry.slotTable.register descriptor = (registry.register descriptor).map slotTable := by
  have came := registry.registerOf_register descriptor
  generalize registry.register descriptor = result at came
  rw [SlotTable.register, slot_slotTable]
  cases came with
  | repeated held => simp only [held, Except.map]
  | unknown isNew missing =>
      simp only [isNew, SlotTable.checkLayout, missing]
      rfl
  | mismatched isNew found differs =>
      simp only [isNew, SlotTable.checkLayout, found, if_neg differs]
      rfl
  | registered isNew found inserted =>
      simp only [isNew, SlotTable.checkLayout, found, if_true, Except.map,
        slotTable_of_inserted inserted]
      rfl

/-- What the slots hold is what the registry lists. -/
theorem descriptors_slotTable (registry : OpcodeRegistry) :
    registry.slotTable.descriptors = registry.descriptors := by
  have listed :
      registry.slotTable.descriptors =
        (List.finRange 256).filterMap fun index =>
          registry.slots.get? (UInt8.ofFin index) := by
    rw [SlotTable.descriptors, slotTable, Vector.toList_ofFn, List.ofFn_eq_map,
      List.filterMap_map]
    rfl
  have ascending :
      registry.slotTable.descriptors.Pairwise fun first second =>
        first.opcode < second.opcode := by
    rw [listed, List.pairwise_filterMap]
    apply (List.pairwise_lt_finRange 256).imp
    intro first second below descriptor held later laterHeld
    rw [(get?_slots_eq_some_iff.mp held).2, (get?_slots_eq_some_iff.mp laterHeld).2]
    exact below
  apply ascending.eq_of_mem_iff registry.ascending_descriptors
  intro descriptor
  rw [listed, List.mem_filterMap]
  constructor
  · rintro ⟨index, -, held⟩
    exact (get?_slots_eq_some_iff.mp held).1
  · intro held
    exact ⟨descriptor.opcode.toFin, List.mem_finRange _, get?_slots_eq_some_iff.mpr ⟨held, rfl⟩⟩

/-- A table is filled from a list exactly as a registry is, with the same faults. -/
theorem ofList_slotTable (listed : List Descriptor) :
    SlotTable.ofList listed = (ofList listed).map slotTable := by
  have nothing : SlotTable.empty = slotTable empty := by
    apply SlotTable.ext_slot
    intro opcode
    rw [SlotTable.slot_empty, slot_slotTable]
    rfl
  rw [SlotTable.ofList, nothing]
  exact Except.foldlM_view register_slotTable listed empty

/-- A descriptor is found in its slot as it is found in the registry. -/
theorem lookup_slotTable (registry : OpcodeRegistry) (opcode : UInt8) :
    registry.slotTable.lookup opcode = registry.lookup opcode := by
  rw [SlotTable.lookup, slot_slotTable]
  rfl

end OpcodeRegistry

end AdventureArchive
