namespace AdventureArchive

/-!
# Operand stacks

A stack has a fixed number of slots, and all of them are zero until they are
written.  `OperandStack.toList` shows all slots.

Only the slots up to the highest written one are held here.  Laying out all slots
at once needs memory for all of them, which cannot be had from 2 ^ 61 slots on and
may be missing before.  That is left out, here and wherever else memory is needed:
allocations are taken to succeed.  The one size that is looked at is that of the
buffer of `Lz.decompress`.
-/

/-- A fixed number of slots. -/
structure OperandStack where
  capacity : Nat
  written : List Int32
  length_written_le : written.length ≤ capacity
  deriving DecidableEq

namespace OperandStack

/-- A stack whose slots are all zero. -/
def zeroed (capacity : Nat) : OperandStack where
  capacity := capacity
  written := []
  length_written_le := Nat.zero_le capacity

/-- All slots, the lowest first. -/
def toList (stack : OperandStack) : List Int32 :=
  stack.written ++
    List.replicate (stack.capacity - stack.written.length) 0

/-- The value in a slot, if the stack has that slot. -/
def get? (stack : OperandStack) (slot : Nat) : Option Int32 :=
  if slot < stack.capacity then
    some ((stack.written[slot]?).getD 0)
  else
    none

/-- The held slots, made up to at least the given number. -/
def heldUpTo (stack : OperandStack) (count : Nat) : List Int32 :=
  stack.written ++ List.replicate (count - stack.written.length) 0

/-- The stack with one slot written, if it has that slot. -/
def set?
    (stack : OperandStack)
    (slot : Nat)
    (value : Int32) :
    Option OperandStack :=
  if inside : slot < stack.capacity then
    some {
      capacity := stack.capacity
      written := (stack.heldUpTo (slot + 1)).set slot value
      length_written_le := by
        have held := stack.length_written_le
        simp only [heldUpTo, List.length_set, List.length_append, List.length_replicate]
        omega
    }
  else
    none

/-- A stack has as many slots as its capacity says. -/
@[simp] theorem length_toList (stack : OperandStack) :
    stack.toList.length = stack.capacity := by
  have held := stack.length_written_le
  simp only [toList, List.length_append, List.length_replicate]
  omega

/-- At first all slots are zero. -/
@[simp] theorem toList_zeroed (capacity : Nat) :
    (zeroed capacity).toList = List.replicate capacity 0 := by
  simp [toList, zeroed]

/-- Reading a slot is looking into the list of slots. -/
theorem get?_eq_getElem? (stack : OperandStack) (slot : Nat) :
    stack.get? slot = stack.toList[slot]? := by
  have held := stack.length_written_le
  by_cases inside : slot < stack.capacity
  · by_cases isWritten : slot < stack.written.length
    · simp [get?, toList, inside, isWritten, List.getElem?_append_left]
    · have notWritten : stack.written.length ≤ slot := Nat.le_of_not_lt isWritten
      have belowRest :
          slot - stack.written.length < stack.capacity - stack.written.length := by
        omega
      simp [get?, toList, inside, notWritten, belowRest, List.getElem?_append_right]
  · simp [get?, inside]

/-- Writing a slot changes that slot in the list of slots and nothing else. -/
theorem toList_of_set?_eq_some
    {stack changed : OperandStack}
    {slot : Nat}
    {value : Int32}
    (accepted : stack.set? slot value = some changed) :
    changed.toList = stack.toList.set slot value := by
  have held := stack.length_written_le
  unfold set? at accepted
  split at accepted
  · next inside =>
      have same := Option.some.inj accepted
      subst same
      have sameSlots :
          stack.toList =
            stack.heldUpTo (slot + 1) ++
              List.replicate
                (stack.capacity - (stack.heldUpTo (slot + 1)).length) 0 := by
        simp only [toList, heldUpTo, List.append_assoc, List.replicate_append_replicate,
          List.length_append, List.length_replicate]
        congr 2
        omega
      have isHeld : slot < (stack.heldUpTo (slot + 1)).length := by
        simp only [heldUpTo, List.length_append, List.length_replicate]
        omega
      rw [sameSlots, List.set_append_left slot value isHeld]
      simp [toList]
  · contradiction

/-- A slot cannot be written just when the stack does not have it. -/
theorem set?_eq_none_iff
    {stack : OperandStack}
    {slot : Nat}
    {value : Int32} :
    stack.set? slot value = none ↔ stack.capacity ≤ slot := by
  unfold set?
  split
  · next inside =>
      constructor
      · intro impossible
        contradiction
      · intro outside
        omega
  · next outside =>
      simp only [true_iff]
      omega

end OperandStack

end AdventureArchive
