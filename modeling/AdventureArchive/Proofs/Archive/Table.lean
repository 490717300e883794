import AdventureArchive.Archive.Load
import AdventureArchive.Archive.Save
import AdventureArchive.Proofs.SortedMap

namespace AdventureArchive.Archive

/-!
# Stored tables

A table is its index and then the payloads, one after the other (`tableBytes`).
Writing it succeeds unless the table outgrows its offsets (`writeTable_cases`).
Reading the index and cutting the entries out gives the ids and the payloads
back (`readIndex_tableBytes`, `entryBytes_tableBytes`).
-/

/-- What stands between two other parts is cut out at its place. -/
theorem slice_middle (front part behind : List UInt8) :
    slice (front ++ part ++ behind).toArray front.length part.length = part.toArray := by
  rw [slice, List.extract_toArray, List.extract_eq_take_drop, List.append_assoc,
    List.drop_left, Nat.add_sub_cancel_left, List.take_left]

/-! ## Indexes -/

/-- The index of consecutive entries, the first of which starts at the given offset. -/
def consecutiveIndex (offset : Nat) : List (UInt16 × List UInt8) → List IndexEntry
  | [] => []
  | (id, payload) :: rest =>
      ⟨id, UInt32.ofNat offset, UInt32.ofNat payload.length⟩ ::
        consecutiveIndex (offset + payload.length) rest

@[simp] theorem length_consecutiveIndex
    (offset : Nat)
    (payloads : List (UInt16 × List UInt8)) :
    (consecutiveIndex offset payloads).length = payloads.length := by
  induction payloads generalizing offset with
  | nil => rfl
  | cons payload rest inductionHypothesis =>
      rw [consecutiveIndex, List.length_cons, List.length_cons, inductionHypothesis]

@[simp] theorem map_id_consecutiveIndex
    (offset : Nat)
    (payloads : List (UInt16 × List UInt8)) :
    (consecutiveIndex offset payloads).map IndexEntry.id = payloads.map Prod.fst := by
  induction payloads generalizing offset with
  | nil => rfl
  | cons payload rest inductionHypothesis =>
      rw [consecutiveIndex, List.map_cons, List.map_cons, inductionHypothesis]

/-- An index is made unless its entries reach beyond the offsets of a table. -/
theorem indexOnto_cases
    (collected : List IndexEntry)
    (offset : Nat)
    (payloads : List (UInt16 × List UInt8)) :
    indexOnto collected offset payloads =
        .ok (collected.reverse ++ consecutiveIndex offset payloads) ∨
      indexOnto collected offset payloads = .error .tooLarge ∧
        UInt32.size ≤ offset + (payloads.flatMap Prod.snd).length := by
  induction payloads generalizing collected offset with
  | nil =>
      left
      rw [indexOnto, consecutiveIndex, List.append_nil]
  | cons payload rest inductionHypothesis =>
      rcases payload with ⟨id, payload⟩
      simp only [List.flatMap_cons, List.length_append, ← Nat.add_assoc]
      unfold indexOnto
      split
      next fits =>
        rcases inductionHypothesis
            (⟨id, UInt32.ofNat offset, UInt32.ofNat payload.length⟩ :: collected)
            (offset + payload.length) with made | tooLarge
        · left
          rw [made, List.reverse_cons, List.append_assoc]
          rfl
        · exact Or.inr tooLarge
      next tooLarge =>
        right
        refine ⟨rfl, ?_⟩
        rcases Nat.lt_or_ge offset UInt32.size with offsetFits | offsetTooLarge
        · have payloadTooLarge : UInt32.size ≤ payload.length := by
            apply Nat.le_of_not_lt
            intro payloadFits
            exact tooLarge ⟨offsetFits, payloadFits⟩
          omega
        · omega

/-! ## Tables -/

/-- The bytes of a table with the given entries. -/
def tableBytes (payloads : List (UInt16 × List UInt8)) : List UInt8 :=
  Layout.writeMany
      (consecutiveIndex (payloads.length * Layout.width IndexEntry) payloads) ++
    payloads.flatMap Prod.snd

/-- An index takes the space that its payloads leave in front of them. -/
theorem length_tableBytes (payloads : List (UInt16 × List UInt8)) :
    (tableBytes payloads).length =
      payloads.length * Layout.width IndexEntry + (payloads.flatMap Prod.snd).length := by
  rw [tableBytes, List.length_append, Layout.length_writeMany, length_consecutiveIndex]

/-- A table is written unless it outgrows its offsets. -/
theorem writeTable_cases (payloads : List (UInt16 × List UInt8)) :
    writeTable payloads = .ok (tableBytes payloads) ∨
      writeTable payloads = .error .tooLarge ∧
        UInt32.size ≤ (tableBytes payloads).length := by
  rw [length_tableBytes]
  rcases indexOnto_cases [] (payloads.length * Layout.width IndexEntry) payloads with
    made | ⟨tooLarge, length⟩
  · left
    rw [writeTable, made]
    rfl
  · right
    rw [writeTable, tooLarge]
    exact ⟨rfl, length⟩

/-- No id is repeated among ids that differ from each other and from those before. -/
theorem firstRepeated?_of_nodup
    {seen : SortedMap UInt16 Unit}
    {ids : List UInt16}
    (nodup : ids.Nodup)
    (fresh : ∀ entry ∈ seen.toList, entry.1 ∉ ids) :
    firstRepeated? seen ids = none := by
  induction ids generalizing seen with
  | nil => rfl
  | cons id rest inductionHypothesis =>
      obtain ⟨notInRest, restNodup⟩ := List.nodup_cons.mp nodup
      have notSeen : seen.contains id = false := by
        apply SortedMap.contains_eq_false
        intro entry member sameId
        exact fresh entry member (sameId ▸ List.mem_cons_self)
      rw [firstRepeated?, notSeen, if_neg Bool.false_ne_true]
      apply inductionHypothesis restNodup
      intro entry member
      rcases SortedMap.mem_toList_of_mem_insert member with rfl | wasThere
      · exact notInRest
      · exact fun inRest => fresh entry wasThere (List.mem_cons_of_mem id inRest)

/-- The index of a written table is read back if no id is written twice. -/
theorem readIndex_tableBytes
    {span : TableSpan}
    {payloads : List (UInt16 × List UInt8)}
    (entryCount : span.entryCount.toNat = payloads.length)
    (nodup : (payloads.map Prod.fst).Nodup) :
    readIndex span (tableBytes payloads) =
      .ok (consecutiveIndex (payloads.length * Layout.width IndexEntry) payloads) := by
  have indexRead :
      Layout.readMany span.entryCount.toNat (tableBytes payloads) =
        some (consecutiveIndex (payloads.length * Layout.width IndexEntry) payloads,
          payloads.flatMap Prod.snd) := by
    rw [entryCount, tableBytes]
    have readBack := Layout.readMany_append
      (consecutiveIndex (payloads.length * Layout.width IndexEntry) payloads)
      (payloads.flatMap Prod.snd)
    rwa [length_consecutiveIndex] at readBack
  have noneRepeated :
      firstRepeated? .empty
        ((consecutiveIndex (payloads.length * Layout.width IndexEntry) payloads).map
          IndexEntry.id) = none := by
    rw [map_id_consecutiveIndex]
    exact firstRepeated?_of_nodup nodup fun _ member => absurd member List.not_mem_nil
  simp only [readIndex, indexRead, noneRepeated]

/-- Consecutive entries behind some bytes are cut out at their places. -/
theorem entryBytes_consecutiveIndex
    (front : List UInt8)
    {payloads : List (UInt16 × List UInt8)}
    (fits : front.length + (payloads.flatMap Prod.snd).length < UInt32.size) :
    (consecutiveIndex front.length payloads).map
        (fun entry =>
          (entry.id, entryBytes (front ++ payloads.flatMap Prod.snd).toArray entry)) =
      payloads.map fun payload => (payload.1, .ok payload.2) := by
  induction payloads generalizing front with
  | nil => rfl
  | cons payload rest inductionHypothesis =>
      rcases payload with ⟨id, payload⟩
      have whole :
          front ++ ((id, payload) :: rest).flatMap Prod.snd =
            front ++ payload ++ rest.flatMap Prod.snd := by
        rw [List.flatMap_cons, List.append_assoc]
      rw [← List.length_append, whole] at fits
      have offsetShape : (UInt32.ofNat front.length).toNat = front.length := by
        apply UInt32.toNat_ofNat_of_lt'
        simp only [List.length_append] at fits
        omega
      have lengthShape : (UInt32.ofNat payload.length).toNat = payload.length := by
        apply UInt32.toNat_ofNat_of_lt'
        simp only [List.length_append] at fits
        omega
      have cutOut :
          entryBytes (front ++ payload ++ rest.flatMap Prod.snd).toArray
              ⟨id, UInt32.ofNat front.length, UInt32.ofNat payload.length⟩ =
            .ok payload := by
        have inside :
            ¬ (front ++ payload ++ rest.flatMap Prod.snd).toArray.size <
                front.length + payload.length := by
          simp only [List.size_toArray, List.length_append]
          omega
        simp only [entryBytes, offsetShape, lengthShape]
        rw [if_neg inside, slice_middle]
      -- The payload joins the front, so the places of the rest stay what they were.
      have remaining := inductionHypothesis (front ++ payload) (by
        rwa [← List.length_append])
      rw [List.length_append] at remaining
      rw [whole, consecutiveIndex, List.map_cons, List.map_cons, cutOut, remaining]

/-- The entries of a written table are cut out of it. -/
theorem entryBytes_tableBytes
    {payloads : List (UInt16 × List UInt8)}
    (fits : (tableBytes payloads).length < UInt32.size) :
    (consecutiveIndex (payloads.length * Layout.width IndexEntry) payloads).map
        (fun entry => (entry.id, entryBytes (tableBytes payloads).toArray entry)) =
      payloads.map fun payload => (payload.1, .ok payload.2) := by
  have indexLength :
      (Layout.writeMany
        (consecutiveIndex (payloads.length * Layout.width IndexEntry) payloads)).length =
          payloads.length * Layout.width IndexEntry := by
    rw [Layout.length_writeMany, length_consecutiveIndex]
  rw [length_tableBytes, ← indexLength] at fits
  have cutOut := entryBytes_consecutiveIndex _ fits
  rw [indexLength] at cutOut
  exact cutOut

end AdventureArchive.Archive
