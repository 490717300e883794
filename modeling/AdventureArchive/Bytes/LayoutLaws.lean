import AdventureArchive.Bytes.Layout

namespace AdventureArchive

/-!
# Laws of fixed-width fields

A layout is lawful when writing takes exactly its width, reading gives back
what was written and leaves what follows, and reading fails only on byte lists
that are too short.  Words, pairs, vectors and records stored like a lawful
tuple are lawful.
-/

/-- A layout whose reader and writer undo each other. -/
class LawfulLayout (α : Type) [Layout α] : Prop where
  length_write : ∀ value : α, (Layout.write value).length = Layout.width α
  read_append : ∀ (value : α) (rest : List UInt8),
    Layout.read (Layout.write value ++ rest) = some (value, rest)
  eq_append_of_read : ∀ {bytes : List UInt8} {value : α} {rest : List UInt8},
    Layout.read bytes = some (value, rest) → bytes = Layout.write value ++ rest
  length_lt_of_read_eq_none : ∀ {bytes : List UInt8},
    Layout.read (α := α) bytes = none → bytes.length < Layout.width α

namespace LawfulLayout

variable {α β : Type}

/-- A record stored like a lawful tuple of its fields is lawful. -/
theorem via
    [Layout β]
    [LawfulLayout β]
    {toFields : α → β}
    {ofFields : β → α}
    (ofFields_toFields : ∀ record, ofFields (toFields record) = record)
    (toFields_ofFields : ∀ fields, toFields (ofFields fields) = fields) :
    @LawfulLayout α (Layout.via toFields ofFields) := by
  let _ : Layout α := .via toFields ofFields
  exact {
    length_write := fun record => length_write (toFields record)
    read_append := by
      intro record rest
      simp only [Layout.read, Layout.write, read_append, ofFields_toFields]
    eq_append_of_read := by
      intro bytes record rest accepted
      simp only [Layout.read] at accepted
      split at accepted
      next fields remaining readShape =>
        simp only [Option.some.injEq, Prod.mk.injEq] at accepted
        obtain ⟨rfl, rfl⟩ := accepted
        simp only [Layout.write, toFields_ofFields]
        exact eq_append_of_read readShape
      next => simp at accepted
    length_lt_of_read_eq_none := by
      intro bytes rejected
      simp only [Layout.read] at rejected
      split at rejected
      next => simp at rejected
      next readShape => exact length_lt_of_read_eq_none (α := β) readShape
  }

variable [Layout α] [Layout β]

/-- A successful read takes exactly the width of the layout. -/
theorem length_of_read
    [LawfulLayout α]
    {bytes : List UInt8}
    {value : α}
    {rest : List UInt8}
    (accepted : Layout.read bytes = some (value, rest)) :
    bytes.length = Layout.width α + rest.length := by
  rw [eq_append_of_read accepted, List.length_append, length_write]

/-- Reading fails exactly when the bytes do not fill the width. -/
theorem read_eq_none_iff
    [LawfulLayout α]
    {bytes : List UInt8} :
    Layout.read (α := α) bytes = none ↔ bytes.length < Layout.width α := by
  constructor
  · exact length_lt_of_read_eq_none
  · intro short
    match readShape : Layout.read (α := α) bytes with
    | none => rfl
    | some (value, rest) =>
        have := length_of_read readShape
        omega

instance : LawfulLayout Unit where
  length_write _ := rfl
  read_append _ _ := rfl
  eq_append_of_read := by
    intro bytes value rest accepted
    simp only [Layout.read, Option.some.injEq, Prod.mk.injEq] at accepted
    simp [Layout.write, accepted.2]
  length_lt_of_read_eq_none := by
    intro bytes rejected
    simp [Layout.read] at rejected

instance : LawfulLayout UInt8 where
  length_write _ := rfl
  read_append _ _ := rfl
  eq_append_of_read := by
    intro bytes value rest accepted
    cases bytes with
    | nil => simp [Layout.read] at accepted
    | cons byte remaining =>
        simp only [Layout.read, Option.some.injEq, Prod.mk.injEq] at accepted
        simp [Layout.write, accepted.1, accepted.2]
  length_lt_of_read_eq_none := by
    intro bytes rejected
    cases bytes with
    | nil => decide
    | cons byte remaining => simp [Layout.read] at rejected

private theorem encode_decode_mod
    (width bound : Nat)
    (bytes : List UInt8)
    (length : bytes.length = width)
    (size : LittleEndian.capacity width = bound) :
    LittleEndian.encode width (LittleEndian.decode bytes % bound) = bytes := by
  have small : LittleEndian.decode bytes < bound := by
    have := LittleEndian.decode_lt bytes
    rwa [length, size] at this
  rw [Nat.mod_eq_of_lt small]
  subst length
  exact LittleEndian.encode_decode bytes

instance : LawfulLayout UInt16 where
  length_write value := by simp [Layout.write, Layout.width]
  read_append value rest := by
    have fits : value.toNat < LittleEndian.capacity 2 := value.toNat_lt
    have decoded := LittleEndian.decode_encode fits
    simp only [Layout.write, LittleEndian.encode, List.cons_append,
      List.nil_append, Layout.read] at decoded ⊢
    rw [decoded, UInt16.ofNat_toNat]
  eq_append_of_read := by
    intro bytes value rest accepted
    match bytes with
    | [] => simp [Layout.read] at accepted
    | [_] => simp [Layout.read] at accepted
    | first :: second :: remaining =>
        simp only [Layout.read, Option.some.injEq, Prod.mk.injEq] at accepted
        obtain ⟨rfl, rfl⟩ := accepted
        simp only [Layout.write, UInt16.toNat_ofNat']
        rw [encode_decode_mod 2 0x10000 [first, second] rfl (by decide)]
        rfl
  length_lt_of_read_eq_none := by
    intro bytes rejected
    match bytes with
    | [] => decide
    | [_] => simp [Layout.width]
    | _ :: _ :: _ => simp [Layout.read] at rejected

instance : LawfulLayout UInt32 where
  length_write value := by simp [Layout.write, Layout.width]
  read_append value rest := by
    have fits : value.toNat < LittleEndian.capacity 4 := value.toNat_lt
    have decoded := LittleEndian.decode_encode fits
    simp only [Layout.write, LittleEndian.encode, List.cons_append,
      List.nil_append, Layout.read] at decoded ⊢
    rw [decoded, UInt32.ofNat_toNat]
  eq_append_of_read := by
    intro bytes value rest accepted
    match bytes with
    | [] => simp [Layout.read] at accepted
    | [_] => simp [Layout.read] at accepted
    | [_, _] => simp [Layout.read] at accepted
    | [_, _, _] => simp [Layout.read] at accepted
    | first :: second :: third :: fourth :: remaining =>
        simp only [Layout.read, Option.some.injEq, Prod.mk.injEq] at accepted
        obtain ⟨rfl, rfl⟩ := accepted
        simp only [Layout.write, UInt32.toNat_ofNat']
        rw [encode_decode_mod 4 0x100000000 [first, second, third, fourth] rfl (by decide)]
        rfl
  length_lt_of_read_eq_none := by
    intro bytes rejected
    match bytes with
    | [] => decide
    | [_] => simp [Layout.width]
    | [_, _] => simp [Layout.width]
    | [_, _, _] => simp [Layout.width]
    | _ :: _ :: _ :: _ :: _ => simp [Layout.read] at rejected

instance : LawfulLayout Int16 :=
  via (fun _ => rfl) (fun _ => rfl)

instance : LawfulLayout Int32 :=
  via (fun _ => rfl) (fun _ => rfl)

instance [LawfulLayout α] [LawfulLayout β] : LawfulLayout (α × β) where
  length_write value := by
    simp [Layout.write, Layout.width, length_write]
  read_append value rest := by
    simp only [Layout.write, Layout.read, List.append_assoc, read_append]
  eq_append_of_read := by
    intro bytes value rest accepted
    simp only [Layout.read] at accepted
    split at accepted
    next => simp at accepted
    next first afterFirst firstShape =>
      split at accepted
      next => simp at accepted
      next second remaining secondShape =>
        simp only [Option.some.injEq, Prod.mk.injEq] at accepted
        obtain ⟨rfl, rfl⟩ := accepted
        rw [eq_append_of_read firstShape, eq_append_of_read secondShape]
        simp [Layout.write]
  length_lt_of_read_eq_none := by
    intro bytes rejected
    simp only [Layout.read] at rejected
    split at rejected
    next firstShape =>
      have := length_lt_of_read_eq_none firstShape
      simp only [Layout.width]
      omega
    next first afterFirst firstShape =>
      split at rejected
      next secondShape =>
        have := length_lt_of_read_eq_none secondShape
        have := length_of_read firstShape
        simp only [Layout.width]
        omega
      next => simp at rejected

end LawfulLayout

namespace Layout

variable {α : Type} [Layout α]

private theorem readOnto_append
    [LawfulLayout α]
    (values collected : List α)
    (rest : List UInt8) :
    readOnto collected values.length (writeMany values ++ rest) =
      some (collected.reverse ++ values, rest) := by
  induction values generalizing collected with
  | nil => simp [readOnto, writeMany]
  | cons value remaining inductionHypothesis =>
      simp only [writeMany, List.flatMap_cons, List.append_assoc] at inductionHypothesis ⊢
      simp only [List.length_cons, readOnto, LawfulLayout.read_append,
        inductionHypothesis]
      simp

/-- Consecutive values are read back, and what follows them is left. -/
theorem readMany_append
    [LawfulLayout α]
    (values : List α)
    (rest : List UInt8) :
    readMany values.length (writeMany values ++ rest) = some (values, rest) := by
  simpa [readMany] using readOnto_append values [] rest

private theorem eq_append_of_readOnto
    [LawfulLayout α]
    {count : Nat}
    {collected values : List α}
    {bytes rest : List UInt8}
    (accepted : readOnto collected count bytes = some (values, rest)) :
    ∃ added, values = collected.reverse ++ added ∧ added.length = count ∧
      bytes = writeMany added ++ rest := by
  induction count generalizing collected bytes with
  | zero =>
      simp only [readOnto, Option.some.injEq, Prod.mk.injEq] at accepted
      exact ⟨[], by simp [accepted.1], rfl, by simp [writeMany, accepted.2]⟩
  | succ count inductionHypothesis =>
      simp only [readOnto] at accepted
      split at accepted
      next => simp at accepted
      next value remaining readShape =>
        obtain ⟨added, valuesShape, addedLength, bytesShape⟩ :=
          inductionHypothesis accepted
        refine ⟨value :: added, by simp [valuesShape], by simp [addedLength], ?_⟩
        rw [LawfulLayout.eq_append_of_read readShape, bytesShape]
        simp [writeMany]

/-- Reading consecutive values takes exactly what writing them produces. -/
theorem eq_append_of_readMany
    [LawfulLayout α]
    {count : Nat}
    {values : List α}
    {bytes rest : List UInt8}
    (accepted : readMany count bytes = some (values, rest)) :
    values.length = count ∧ bytes = writeMany values ++ rest := by
  obtain ⟨added, valuesShape, addedLength, bytesShape⟩ :=
    eq_append_of_readOnto accepted
  simp only [List.reverse_nil, List.nil_append] at valuesShape
  subst valuesShape
  exact ⟨addedLength, bytesShape⟩

private theorem length_lt_of_readOnto_eq_none
    [LawfulLayout α]
    {count : Nat}
    {collected : List α}
    {bytes : List UInt8}
    (rejected : readOnto collected count bytes = none) :
    bytes.length < count * width α := by
  induction count generalizing collected bytes with
  | zero => simp [readOnto] at rejected
  | succ count inductionHypothesis =>
      simp only [readOnto] at rejected
      rw [Nat.succ_mul]
      split at rejected
      next readShape =>
        have := LawfulLayout.length_lt_of_read_eq_none readShape
        omega
      next value remaining readShape =>
        have := inductionHypothesis rejected
        have := LawfulLayout.length_of_read readShape
        omega

/-- Reading consecutive values fails only when the bytes run out. -/
theorem length_lt_of_readMany_eq_none
    [LawfulLayout α]
    {count : Nat}
    {bytes : List UInt8}
    (rejected : readMany (α := α) count bytes = none) :
    bytes.length < count * width α :=
  length_lt_of_readOnto_eq_none rejected

/-- The stored length of consecutive values. -/
@[simp] theorem length_writeMany
    [LawfulLayout α]
    (values : List α) :
    (writeMany values).length = values.length * width α := by
  induction values with
  | nil => simp [writeMany]
  | cons value remaining inductionHypothesis =>
      simp only [writeMany, List.flatMap_cons, List.length_append,
        LawfulLayout.length_write, List.length_cons, Nat.succ_mul] at inductionHypothesis ⊢
      omega

instance
    {count : Nat}
    [LawfulLayout α] :
    LawfulLayout (Vector α count) where
  length_write values := by
    simp [write, width]
  read_append values rest := by
    have sameCount : values.toList.length = count := by simp
    have readBack := readMany_append values.toList rest
    rw [sameCount] at readBack
    simp only [write, read, readBack, sameCount, dif_pos]
    cases values
    simp
  eq_append_of_read := by
    intro bytes values rest accepted
    simp only [read] at accepted
    split at accepted
    next => simp at accepted
    next collected remaining readShape =>
      obtain ⟨collectedLength, bytesShape⟩ := eq_append_of_readMany readShape
      simp only [collectedLength, dif_pos, Option.some.injEq,
        Prod.mk.injEq] at accepted
      obtain ⟨rfl, rfl⟩ := accepted
      simpa [write] using bytesShape
  length_lt_of_read_eq_none := by
    intro bytes rejected
    simp only [read] at rejected
    split at rejected
    next readShape =>
      simpa [width] using length_lt_of_readMany_eq_none readShape
    next collected remaining readShape =>
      simp [(eq_append_of_readMany readShape).1] at rejected

end Layout

end AdventureArchive
