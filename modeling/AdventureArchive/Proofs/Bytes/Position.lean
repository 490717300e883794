import AdventureArchive.Bytes.LayoutLaws

namespace AdventureArchive

/-!
# Values at positions

Values with a fixed layout are found at their positions in a byte list.  Reading
in order finds the value at the position it has come to (`Layout.read_drop`),
and a run of values at the positions that are a width apart
(`Layout.readMany_drop`).
-/

/-- The bytes of a range, as far as there are any. -/
def byteRange (bytes : List UInt8) (start length : Nat) : List UInt8 :=
  (bytes.drop start).take length

theorem length_byteRange
    {bytes : List UInt8}
    {start length : Nat}
    (inside : start + length ≤ bytes.length) :
    (byteRange bytes start length).length = length := by
  rw [byteRange, List.length_take, List.length_drop]
  omega

/-- A range of a range is a range of the whole. -/
theorem byteRange_byteRange
    (bytes : List UInt8)
    {start length innerStart innerLength : Nat}
    (inside : innerStart + innerLength ≤ length) :
    byteRange (byteRange bytes start length) innerStart innerLength =
      byteRange bytes (start + innerStart) innerLength := by
  have short : innerLength ≤ length - innerStart := by omega
  simp only [byteRange]
  rw [List.drop_take, List.drop_drop, List.take_take, Nat.min_eq_left short]

namespace Layout

variable {α β : Type} [Layout α]

/-- The value at a position; a value that is cut short counts as the default. -/
def valueAt
    (α : Type)
    [Layout α]
    [Inhabited α]
    (bytes : List UInt8)
    (position : Nat) :
    α :=
  ((read (bytes.drop position)).map Prod.fst).getD default

variable [LawfulLayout α] [Inhabited α]

/-- Reading at a position finds the value there and leaves what follows it. -/
theorem read_drop
    {bytes : List UInt8}
    {position : Nat}
    (inside : position + width α ≤ bytes.length) :
    read (bytes.drop position) =
      some (valueAt α bytes position, bytes.drop (position + width α)) := by
  match found : (read (bytes.drop position) : Option (α × List UInt8)) with
  | none =>
      have short := LawfulLayout.length_lt_of_read_eq_none found
      rw [List.length_drop] at short
      omega
  | some (value, rest) =>
      have behind : rest = bytes.drop (position + width α) := by
        rw [← List.drop_drop, LawfulLayout.eq_append_of_read found,
          ← LawfulLayout.length_write value, List.drop_left]
      rw [valueAt, found, behind]
      rfl

/-- The stored form of the value at a position are the bytes there. -/
theorem write_valueAt
    {bytes : List UInt8}
    {position : Nat}
    (inside : position + width α ≤ bytes.length) :
    write (valueAt α bytes position) = byteRange bytes position (width α) := by
  have whole := LawfulLayout.eq_append_of_read (read_drop (α := α) inside)
  rw [byteRange, whole, ← LawfulLayout.length_write (valueAt α bytes position), List.take_left]

/-- A pair is found as its parts, one behind the other. -/
theorem valueAt_pair
    [Layout β]
    [LawfulLayout β]
    [Inhabited β]
    {bytes : List UInt8}
    {position : Nat}
    (inside : position + (width α + width β) ≤ bytes.length) :
    valueAt (α × β) bytes position =
      (valueAt α bytes position, valueAt β bytes (position + width α)) := by
  have firstRead : read (bytes.drop position) = some (valueAt α bytes position, _) :=
    read_drop (by omega)
  have secondRead :
      read (bytes.drop (position + width α)) =
        some (valueAt β bytes (position + width α), _) :=
    read_drop (by omega)
  rw [valueAt]
  simp only [read, firstRead, secondRead]
  rfl

omit [Layout α] [LawfulLayout α] in
/-- A record is found as its fields. -/
theorem valueAt_via
    [Layout β]
    [LawfulLayout β]
    [Inhabited β]
    {toFields : α → β}
    {ofFields : β → α}
    {bytes : List UInt8}
    {position : Nat}
    (inside : position + width β ≤ bytes.length) :
    @valueAt α (.via toFields ofFields) _ bytes position =
      ofFields (valueAt β bytes position) := by
  let _ : Layout α := .via toFields ofFields
  have found : read (bytes.drop position) = some (valueAt β bytes position, _) :=
    read_drop inside
  simp only [valueAt, read] at found ⊢
  rw [found]
  rfl

/-- Reading a run of values at a position finds each at its own position. -/
theorem readMany_drop
    {count : Nat}
    {bytes : List UInt8}
    {position : Nat}
    (inside : position + count * width α ≤ bytes.length) :
    readMany count (bytes.drop position) =
      some ((List.range count).map fun index =>
          valueAt α bytes (position + index * width α),
        bytes.drop (position + count * width α)) := by
  suffices collecting :
      ∀ collected : List α, readOnto collected count (bytes.drop position) =
        some (collected.reverse ++ (List.range count).map fun index =>
            valueAt α bytes (position + index * width α),
          bytes.drop (position + count * width α)) from
    collecting []
  -- The value read first shifts the positions of the remaining ones by one width.
  induction count generalizing position with
  | zero => simp [readOnto]
  | succ count inductionHypothesis =>
      intro collected
      have shift (index : Nat) :
          position + width α + index * width α = position + (index + 1) * width α := by
        rw [Nat.succ_mul]
        omega
      have first : position + width α ≤ bytes.length := by
        rw [Nat.succ_mul] at inside
        omega
      rw [readOnto, read_drop first]
      dsimp only
      rw [inductionHypothesis (by rwa [shift]), shift, List.range_succ_eq_map, List.map_cons,
        List.map_map, List.reverse_cons, List.append_assoc]
      simp only [shift, Nat.zero_mul, Nat.add_zero, List.singleton_append,
        Function.comp_def]

/-- At the start of some bytes a run of values is found from position zero on. -/
theorem readMany_start
    {count : Nat}
    {bytes : List UInt8}
    (enough : count * width α ≤ bytes.length) :
    readMany count bytes =
      some ((List.range count).map fun index => valueAt α bytes (index * width α),
        bytes.drop (count * width α)) := by
  have inside : 0 + count * width α ≤ bytes.length := by rwa [Nat.zero_add]
  have found := readMany_drop inside
  simp only [Nat.zero_add, List.drop_zero] at found
  exact found

/-- A value that has been written is found where it stands. -/
theorem valueAt_append
    (front : List UInt8)
    (value : α)
    (rest : List UInt8) :
    valueAt α (front ++ (write value ++ rest)) front.length = value := by
  rw [valueAt, List.drop_left, LawfulLayout.read_append]
  rfl

/-- Values that have been written one after the other are found at their positions. -/
theorem map_valueAt_writeMany
    (front : List UInt8)
    (values : List α)
    (rest : List UInt8) :
    ((List.range values.length).map fun index =>
        valueAt α (front ++ (writeMany values ++ rest)) (front.length + index * width α)) =
      values := by
  have inside :
      front.length + values.length * width α ≤
        (front ++ (writeMany values ++ rest)).length := by
    simp only [List.length_append, length_writeMany]
    exact Nat.add_le_add_left (Nat.le_add_right _ _) _
  have found := readMany_drop inside
  rw [List.drop_left, readMany_append] at found
  exact (Prod.mk.inj (Option.some.inj found)).1.symm

omit [Inhabited α] in
/-- A run of values is cut short exactly when the bytes do not fill its width. -/
theorem readMany_eq_none_iff
    {count : Nat}
    {bytes : List UInt8} :
    readMany (α := α) count bytes = none ↔ bytes.length < count * width α := by
  refine ⟨length_lt_of_readMany_eq_none, ?_⟩
  intro short
  match found : (readMany count bytes : Option (List α × List UInt8)) with
  | none => rfl
  | some (values, rest) =>
      obtain ⟨sameCount, whole⟩ := eq_append_of_readMany found
      have lengths := congrArg List.length whole
      rw [List.length_append, length_writeMany, sameCount] at lengths
      omega

end Layout

end AdventureArchive
