import AdventureArchive.SortedMap
import Mathlib.Data.List.Sort

namespace AdventureArchive.SortedMap

/-!
# Sorted maps as ascending lists

A map is the list of its entries (`ext_toList`), and looking a key up is looking
for its entry in that list (`get?_eq_some_iff`); the entry behind a key is the
first one above it (`next?_eq_find?`).  Insertions, erasures and filters are seen
by what is looked up afterwards (`get?_insert`, `get?_erase`, `get?_filter`).
Keys that arrive in ascending order are appended, so a map that is filled from an
ascending list holds exactly that list (`toList_insertAll_of_ascending`).
-/

variable {κ α : Type} [SortKey κ]

/-- Maps with the same list of entries are the same. -/
theorem ext_toList
    {first second : SortedMap κ α}
    (sameEntries : first.toList = second.toList) :
    first = second :=
  SortedMap.ext (Array.toList_inj.mp sameEntries)

@[simp] theorem length_toList (map : SortedMap κ α) : map.toList.length = map.size :=
  rfl

/-- Maps with the same entries are the same. -/
theorem ext_mem
    {first second : SortedMap κ α}
    (sameEntries : ∀ entry, entry ∈ first.toList ↔ entry ∈ second.toList) :
    first = second := by
  have asymmetric : Std.Asymm fun first second : κ × α => rank first.1 < rank second.1 :=
    ⟨fun _ _ => Nat.lt_asymm⟩
  exact ext_toList (first.ascending.eq_of_mem_iff second.ascending sameEntries)

/-- Filtering a map filters its list. -/
@[simp] theorem toList_filter
    (keep : κ → α → Bool)
    (map : SortedMap κ α) :
    (map.filter keep).toList = map.toList.filter fun entry => keep entry.1 entry.2 :=
  Array.toList_filter

/-- A key has the value that stands beside it in the list. -/
theorem get?_eq_some_iff
    {map : SortedMap κ α}
    {key : κ}
    {value : α} :
    map.get? key = some value ↔ (key, value) ∈ map.toList := by
  constructor
  · intro found
    unfold get? at found
    split at found
    next foundKey foundValue atPosition =>
      split at found
      next sameRank =>
        rw [SortKey.rank_injective sameRank, Option.some.inj found] at atPosition
        exact Array.mem_toList_iff.mpr (Array.mem_of_getElem? atPosition)
      next => contradiction
    next => contradiction
  · intro member
    obtain ⟨index, inside, atIndex⟩ := List.getElem_of_mem member
    have inArray : index < map.entries.size := inside
    have entryShape : map.entries[index] = (key, value) := atIndex
    have notBelow : map.position key ≤ index := by
      apply Nat.le_of_not_lt
      intro below
      have smaller := (map.lt_position_iff key inArray).mp below
      rw [entryShape] at smaller
      exact Nat.lt_irrefl _ smaller
    have notAbove : ¬ map.position key < index := by
      intro above
      have smaller := map.rank_lt_rank above inArray
      rw [entryShape] at smaller
      exact Nat.lt_irrefl _ ((map.lt_position_iff key (Nat.lt_trans above inArray)).mpr smaller)
    obtain rfl : map.position key = index := by omega
    simp only [get?, Array.getElem?_eq_getElem inArray, entryShape, if_true]

/-- A key that no entry has is not held. -/
theorem contains_eq_false
    {map : SortedMap κ α}
    {key : κ}
    (absent : ∀ entry ∈ map.toList, entry.1 ≠ key) :
    map.contains key = false := by
  match found : map.get? key with
  | none => simp only [contains, found, Option.isSome_none]
  | some value => exact absurd rfl (absent _ (get?_eq_some_iff.mp found))

/-- A key is held exactly if it is one of the keys. -/
theorem contains_iff
    {map : SortedMap κ α}
    {key : κ} :
    map.contains key = true ↔ key ∈ map.keys := by
  rw [contains, Option.isSome_iff_exists, keys]
  simp only [get?_eq_some_iff, List.mem_map, Prod.exists]
  constructor
  · rintro ⟨value, member⟩
    exact ⟨key, value, member, rfl⟩
  · rintro ⟨_, value, member, rfl⟩
    exact ⟨value, member⟩

/-- The entry with the smallest key is the first one in the list. -/
theorem first?_eq_head? (map : SortedMap κ α) : map.first? = map.toList.head? := by
  rw [first?, List.head?_eq_getElem?, toList, Array.getElem?_toList]

/-- The first entry is one of the entries. -/
theorem mem_toList_of_first?
    {map : SortedMap κ α}
    {entry : κ × α}
    (found : map.first? = some entry) :
    entry ∈ map.toList := by
  rw [first?_eq_head?] at found
  exact List.mem_of_head? found

/-- In front of the position of a key there are no entries with keys above it. -/
theorem find?_take_position (map : SortedMap κ α) (key : κ) :
    (map.toList.take (map.position key)).find? (fun entry => rank key < rank entry.1) = none := by
  rw [List.find?_eq_none]
  intro entry member
  obtain ⟨index, inside, rfl⟩ := List.getElem_of_mem member
  have isEntry : index < map.position key ∧ index < map.entries.size := by
    rw [List.length_take] at inside
    exact Nat.lt_min.mp inside
  have below := (map.lt_position_iff key isEntry.2).mp isEntry.1
  rw [List.getElem_take, decide_eq_true_eq]
  exact Nat.not_lt_of_lt below

/-- From the position of a key on there are no entries with keys below it. -/
theorem le_of_mem_drop
    {map : SortedMap κ α}
    {key : κ}
    {entry : κ × α}
    (member : entry ∈ map.toList.drop (map.position key)) :
    rank key ≤ rank entry.1 := by
  obtain ⟨index, inside, rfl⟩ := List.getElem_of_mem member
  have isEntry : map.position key + index < map.entries.size := by
    rw [List.length_drop] at inside
    exact Nat.add_lt_of_lt_sub' inside
  rw [List.getElem_drop]
  apply Nat.le_of_not_lt
  intro below
  exact absurd ((map.lt_position_iff key isEntry).mpr below)
    (Nat.not_lt_of_le (Nat.le_add_right _ _))

/-- The entry behind a key is the first one whose key is above it. -/
theorem next?_eq_find?
    (map : SortedMap κ α)
    (key : κ) :
    map.next? key = map.toList.find? fun entry => rank key < rank entry.1 := by
  have found : map.entries[map.position key]? = (map.toList.drop (map.position key)).head? := by
    rw [List.head?_drop, toList, Array.getElem?_toList]
  have foundBehind :
      map.entries[map.position key + 1]? = (map.toList.drop (map.position key)).tail.head? := by
    rw [List.tail_drop, List.head?_drop, toList, Array.getElem?_toList]
  have ascending := map.ascending.sublist (List.drop_sublist (map.position key) map.toList)
  have notBelow := @le_of_mem_drop _ _ _ map key
  have searched :
      map.toList.find? (fun entry => rank key < rank entry.1) =
        (map.toList.drop (map.position key)).find? fun entry => rank key < rank entry.1 := by
    calc
      _ = (map.toList.take (map.position key) ++ map.toList.drop (map.position key)).find? _ := by
          rw [List.take_append_drop]
      _ = _ := by
          rw [List.find?_append, find?_take_position, Option.none_or]
  rw [searched, next?, found, foundBehind]
  generalize map.toList.drop (map.position key) = ahead at ascending notBelow
  cases ahead with
  | nil => rfl
  | cons entry behind =>
      obtain ⟨above, -⟩ := List.pairwise_cons.mp ascending
      rw [List.head?_cons, List.tail_cons]
      dsimp only
      split
      next sameRank =>
        rw [List.find?_cons_of_neg (by simp [sameRank])]
        cases behind with
        | nil => rfl
        | cons next _ =>
            rw [List.head?_cons, List.find?_cons_of_pos]
            simpa [← sameRank] using above next List.mem_cons_self
      next otherRank =>
        have isAbove := Nat.lt_of_le_of_ne (notBelow List.mem_cons_self) (Ne.symm otherRank)
        rw [List.find?_cons_of_pos (by simpa using isAbove)]

/-- The entry behind a key is one of the entries. -/
theorem mem_toList_of_next?
    {map : SortedMap κ α}
    {key : κ}
    {entry : κ × α}
    (found : map.next? key = some entry) :
    entry ∈ map.toList := by
  rw [next?_eq_find?] at found
  exact List.mem_of_find?_eq_some found

/-- The entry behind a key has a key above it. -/
theorem rank_lt_of_next?
    {map : SortedMap κ α}
    {key : κ}
    {entry : κ × α}
    (found : map.next? key = some entry) :
    rank key < rank entry.1 := by
  rw [next?_eq_find?] at found
  have above := List.find?_some found
  exact of_decide_eq_true above

/-- The entry behind a key stands behind the entry of that key in the list. -/
theorem next?_of_split
    {map : SortedMap κ α}
    {before ahead : List (κ × α)}
    {key : κ}
    {value : α}
    (split : map.toList = before ++ (key, value) :: ahead) :
    map.next? key = ahead.head? := by
  have ascending : map.toList.Pairwise fun first second => rank first.1 < rank second.1 :=
    map.ascending
  rw [split, List.pairwise_append, List.pairwise_cons] at ascending
  obtain ⟨-, ⟨above, -⟩, below⟩ := ascending
  have notBefore : before.find? (fun entry => rank key < rank entry.1) = none := by
    rw [List.find?_eq_none]
    intro entry member
    rw [decide_eq_true_eq]
    exact Nat.not_lt_of_lt (below entry member _ List.mem_cons_self)
  rw [next?_eq_find?, split, List.find?_append, notBefore, Option.none_or,
    List.find?_cons_of_neg (by simp)]
  cases ahead with
  | nil => rfl
  | cons next _ =>
      exact List.find?_cons_of_pos (decide_eq_true (above next List.mem_cons_self))

/-- An inserted entry is held. -/
theorem mem_toList_insert_self
    (map : SortedMap κ α)
    (key : κ)
    (value : α) :
    (key, value) ∈ (map.insert key value).toList := by
  unfold insert
  split
  next inside =>
    split
    next =>
      rw [toList, Array.toList_set]
      exact List.mem_set inside _
    next =>
      rw [toList, Array.toList_insertIdx]
      exact (List.mem_insertIdx (map.position_le_size key)).mpr (Or.inl rfl)
  next =>
    rw [toList, Array.toList_insertIdx]
    exact (List.mem_insertIdx (map.position_le_size key)).mpr (Or.inl rfl)

/-- An insertion keeps the entries with other keys. -/
theorem mem_toList_insert_of_ne
    {map : SortedMap κ α}
    {key : κ}
    {entry : κ × α}
    (member : entry ∈ map.toList)
    (different : entry.1 ≠ key)
    (value : α) :
    entry ∈ (map.insert key value).toList := by
  unfold insert
  split
  next inside =>
    split
    next sameKey =>
      obtain ⟨index, indexInside, rfl⟩ := List.getElem_of_mem member
      -- The entry that is replaced has the key, so it is another one.
      have elsewhere : map.position key ≠ index := by
        rintro rfl
        exact different (SortKey.rank_injective sameKey)
      rw [toList, Array.toList_set]
      exact List.mem_of_getElem?
        ((List.getElem?_set_ne elsewhere).trans (List.getElem?_eq_getElem indexInside))
    next =>
      rw [toList, Array.toList_insertIdx]
      exact (List.mem_insertIdx (map.position_le_size key)).mpr (Or.inr member)
  next =>
    rw [toList, Array.toList_insertIdx]
    exact (List.mem_insertIdx (map.position_le_size key)).mpr (Or.inr member)

/-- After an insertion the key has the inserted value; all else is as before. -/
theorem mem_toList_insert_iff
    {map : SortedMap κ α}
    {key : κ}
    {value : α}
    {entry : κ × α} :
    entry ∈ (map.insert key value).toList ↔
      entry = (key, value) ∨ entry ∈ map.toList ∧ entry.1 ≠ key := by
  constructor
  · intro member
    by_cases sameKey : entry.1 = key
    · left
      subst sameKey
      have held := get?_eq_some_iff.mpr (map.mem_toList_insert_self entry.1 value)
      rw [get?_eq_some_iff.mpr member] at held
      rw [← Option.some.inj held]
    · rcases mem_toList_of_mem_insert member with rfl | wasThere
      · exact absurd rfl sameKey
      · exact Or.inr ⟨wasThere, sameKey⟩
  · rintro (rfl | ⟨wasThere, different⟩)
    · exact map.mem_toList_insert_self key value
    · exact mem_toList_insert_of_ne wasThere different value

/-- An insertion adds its key to the keys. -/
theorem mem_keys_insert_iff
    {map : SortedMap κ α}
    {key other : κ}
    {value : α} :
    other ∈ (map.insert key value).keys ↔ other = key ∨ other ∈ map.keys := by
  simp only [keys, List.mem_map, mem_toList_insert_iff]
  constructor
  · rintro ⟨entry, rfl | ⟨wasThere, -⟩, rfl⟩
    · exact Or.inl rfl
    · exact Or.inr ⟨entry, wasThere, rfl⟩
  · rintro (rfl | ⟨entry, wasThere, rfl⟩)
    · exact ⟨(other, value), Or.inl rfl, rfl⟩
    · by_cases sameKey : entry.1 = key
      · exact ⟨(key, value), Or.inl rfl, sameKey.symm⟩
      · exact ⟨entry, Or.inr ⟨wasThere, sameKey⟩, rfl⟩

/-! ## Looking up after a change -/

/-- Maps that look up the same under every key are the same. -/
theorem ext_get?
    {first second : SortedMap κ α}
    (sameValues : ∀ key, first.get? key = second.get? key) :
    first = second := by
  apply ext_mem
  rintro ⟨key, value⟩
  rw [← get?_eq_some_iff, ← get?_eq_some_iff, sameValues]

@[simp] theorem get?_empty (key : κ) : (empty : SortedMap κ α).get? key = none :=
  rfl

/-- An insertion is seen under its own key only. -/
theorem get?_insert
    [DecidableEq κ]
    (map : SortedMap κ α)
    (key other : κ)
    (value : α) :
    (map.insert key value).get? other = if key = other then some value else map.get? other := by
  split
  next same =>
    subst same
    exact get?_eq_some_iff.mpr (map.mem_toList_insert_self key value)
  next different =>
    apply Option.ext
    intro found
    rw [get?_eq_some_iff, get?_eq_some_iff, mem_toList_insert_iff, Prod.mk.injEq]
    simp only [Ne.symm different, false_and, false_or, ne_eq, not_false_eq_true, and_true]

/-- A value is found in a filtered map if it passes the test. -/
theorem get?_filter
    (keep : κ → α → Bool)
    (map : SortedMap κ α)
    (key : κ) :
    (map.filter keep).get? key = (map.get? key).filter (keep key) := by
  apply Option.ext
  intro found
  rw [get?_eq_some_iff, toList_filter, List.mem_filter, Option.filter_eq_some_iff,
    get?_eq_some_iff]

/-- Dropping a key is seen under that key only. -/
theorem get?_erase
    [DecidableEq κ]
    (map : SortedMap κ α)
    (key other : κ) :
    (map.erase key).get? other = if key = other then none else map.get? other := by
  rw [erase, get?_filter]
  split
  next same =>
    rw [same, bne_self_eq_false]
    cases map.get? other <;> rfl
  next different =>
    have kept : (rank other != rank key) = true :=
      bne_iff_ne.mpr fun sameRank => different (SortKey.rank_injective sameRank).symm
    rw [kept]
    cases map.get? other <;> rfl

/-- A value is found as what a partial function makes of it. -/
theorem get?_filterMap
    {β : Type}
    (change : α → Option β)
    (source : SortedMap κ α)
    (key : κ) :
    (source.filterMap change).get? key = (source.get? key).bind change := by
  apply Option.ext
  intro found
  rw [get?_eq_some_iff, Option.bind_eq_some_iff, filterMap, toList, Array.toList_filterMap,
    List.mem_filterMap]
  simp only [Option.map_eq_some_iff, Prod.mk.injEq, get?_eq_some_iff]
  constructor
  · rintro ⟨⟨_, value⟩, member, _, changed, rfl, rfl⟩
    exact ⟨value, member, changed⟩
  · rintro ⟨value, member, changed⟩
    exact ⟨(key, value), member, found, changed, rfl, rfl⟩

/-- A changed value is found under the key of the value before the change. -/
theorem get?_map
    {β : Type}
    (change : α → β)
    (source : SortedMap κ α)
    (key : κ) :
    (source.map change).get? key = (source.get? key).map change := by
  apply Option.ext
  intro found
  rw [get?_eq_some_iff, Option.map_eq_some_iff, map, toList, Array.toList_map, List.mem_map]
  simp only [Prod.mk.injEq, get?_eq_some_iff]
  constructor
  · rintro ⟨⟨_, value⟩, member, rfl, changed⟩
    exact ⟨value, member, changed⟩
  · rintro ⟨value, member, changed⟩
    exact ⟨(key, value), member, rfl, changed⟩

/-- A key above all others is appended. -/
theorem toList_insert_of_above
    {map : SortedMap κ α}
    {key : κ}
    (above : ∀ entry ∈ map.toList, rank entry.1 < rank key)
    (value : α) :
    (map.insert key value).toList = map.toList ++ [(key, value)] := by
  have atEnd : map.position key = map.entries.size := by
    apply Nat.le_antisymm (map.position_le_size key)
    apply Nat.le_of_not_lt
    intro inside
    have smaller : rank map.entries[map.position key].1 < rank key :=
      above _ (Array.getElem_mem_toList inside)
    exact Nat.lt_irrefl _ ((map.lt_position_iff key inside).mpr smaller)
  have notInside : ¬ map.position key < map.entries.size := by omega
  rw [insert, dif_neg notInside]
  simp only [toList, Array.toList_insertIdx, atEnd]
  rw [← Array.length_toList, List.insertIdx_length_self]

/-- An insertion adds at most one entry. -/
theorem size_insert_le
    (map : SortedMap κ α)
    (key : κ)
    (value : α) :
    (map.insert key value).size ≤ map.size + 1 := by
  unfold insert
  split
  · split
    · simp [size]
    · simp [size]
  · simp [size]

@[simp] theorem insertAll_nil (map : SortedMap κ α) : map.insertAll [] = map :=
  rfl

@[simp] theorem insertAll_cons
    (map : SortedMap κ α)
    (pair : κ × α)
    (rest : List (κ × α)) :
    map.insertAll (pair :: rest) = (map.insert pair.1 pair.2).insertAll rest :=
  rfl

/-- Pairs that continue the ascending order of a map are appended. -/
theorem toList_insertAll_of_ascending
    {map : SortedMap κ α}
    {pairs : List (κ × α)}
    (ascending : (map.toList ++ pairs).Pairwise fun first second =>
      rank first.1 < rank second.1) :
    (map.insertAll pairs).toList = map.toList ++ pairs := by
  induction pairs generalizing map with
  | nil => simp
  | cons pair rest inductionHypothesis =>
      have above : ∀ entry ∈ map.toList, rank entry.1 < rank pair.1 := by
        intro entry member
        exact (List.pairwise_append.mp ascending).2.2 entry member pair List.mem_cons_self
      have inserted := toList_insert_of_above above pair.2
      have stillAscending :
          ((map.insert pair.1 pair.2).toList ++ rest).Pairwise
            fun first second => rank first.1 < rank second.1 := by
        rw [inserted]
        simpa using ascending
      rw [insertAll_cons, inductionHypothesis stillAscending, inserted]
      simp

/-- An ascending list is the list of the map it fills. -/
theorem toList_ofList_of_ascending
    {pairs : List (κ × α)}
    (ascending : pairs.Pairwise fun first second => rank first.1 < rank second.1) :
    (ofList pairs).toList = pairs := by
  have filled : (empty.insertAll pairs).toList = empty.toList ++ pairs :=
    toList_insertAll_of_ascending ascending
  exact filled

/-- A map is filled again from its own list. -/
theorem insertAll_toList (map : SortedMap κ α) : empty.insertAll map.toList = map :=
  ext_toList (toList_ofList_of_ascending map.ascending)

/-- Filling a map adds at most one entry for each pair. -/
theorem size_insertAll_le
    (map : SortedMap κ α)
    (pairs : List (κ × α)) :
    (map.insertAll pairs).size ≤ map.size + pairs.length := by
  induction pairs generalizing map with
  | nil => exact Nat.le_refl _
  | cons pair rest inductionHypothesis =>
      calc
        (map.insertAll (pair :: rest)).size
            ≤ (map.insert pair.1 pair.2).size + rest.length := inductionHypothesis _
        _ ≤ map.size + 1 + rest.length :=
            Nat.add_le_add_right (map.size_insert_le pair.1 pair.2) _
        _ = map.size + (pair :: rest).length := by
            rw [List.length_cons]
            omega

/-- An entry of a filled map was there before or is one of the pairs. -/
theorem mem_of_mem_insertAll
    {map : SortedMap κ α}
    {pairs : List (κ × α)}
    {entry : κ × α}
    (member : entry ∈ (map.insertAll pairs).toList) :
    entry ∈ map.toList ∨ entry ∈ pairs := by
  induction pairs generalizing map with
  | nil => exact Or.inl member
  | cons pair rest inductionHypothesis =>
      rcases inductionHypothesis member with inInserted | inRest
      · rcases mem_toList_of_mem_insert inInserted with isNew | wasThere
        · exact Or.inr (List.mem_cons.mpr (Or.inl isNew))
        · exact Or.inl wasThere
      · exact Or.inr (List.mem_cons_of_mem pair inRest)

/-- Pairs with different keys are all held by the map they fill. -/
theorem mem_toList_insertAll_iff
    {map : SortedMap κ α}
    {pairs : List (κ × α)}
    (nodup : (pairs.map Prod.fst).Nodup)
    {entry : κ × α} :
    entry ∈ (map.insertAll pairs).toList ↔
      entry ∈ pairs ∨ entry ∈ map.toList ∧ entry.1 ∉ pairs.map Prod.fst := by
  induction pairs generalizing map with
  | nil => simp
  | cons pair rest inductionHypothesis =>
      obtain ⟨notInRest, restNodup⟩ := List.nodup_cons.mp nodup
      rw [insertAll_cons, inductionHypothesis restNodup, mem_toList_insert_iff,
        List.mem_cons, List.map_cons, List.mem_cons, not_or]
      constructor
      · rintro (inRest | ⟨rfl | ⟨wasThere, different⟩, absent⟩)
        · exact Or.inl (Or.inr inRest)
        · exact Or.inl (Or.inl rfl)
        · exact Or.inr ⟨wasThere, different, absent⟩
      · rintro ((rfl | inRest) | ⟨wasThere, different, absent⟩)
        · exact Or.inr ⟨Or.inl rfl, notInRest⟩
        · exact Or.inl inRest
        · exact Or.inr ⟨Or.inr ⟨wasThere, different⟩, absent⟩

/-- Pairs with different keys change a map in the same way in whatever order they come. -/
theorem insertAll_eq_of_perm
    (map : SortedMap κ α)
    {pairs others : List (κ × α)}
    (same : pairs.Perm others)
    (nodup : (pairs.map Prod.fst).Nodup) :
    map.insertAll pairs = map.insertAll others := by
  have othersNodup : (others.map Prod.fst).Nodup := (same.map Prod.fst).nodup_iff.mp nodup
  apply ext_mem
  intro entry
  rw [mem_toList_insertAll_iff nodup, mem_toList_insertAll_iff othersNodup, same.mem_iff,
    (same.map Prod.fst).mem_iff]

/-- Pairs with different keys fill the same map in whatever order they come. -/
theorem ofList_eq_of_perm
    {pairs others : List (κ × α)}
    (same : pairs.Perm others)
    (nodup : (pairs.map Prod.fst).Nodup) :
    ofList pairs = ofList others :=
  empty.insertAll_eq_of_perm same nodup

end AdventureArchive.SortedMap
