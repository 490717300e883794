namespace AdventureArchive

/-!
# Maps in ascending key order

A `SortedMap` holds its entries in one array, strictly ascending by key.  The
order is part of the type because the archive format writes entries in that
order, and because it makes two maps with the same entries equal.  Lookup and
the search for the next key are binary searches.

`position_le_size`, `lt_position_iff` say what the search returns: the number
of keys below the one that is looked for.
-/

/-- Keys ordered by a number that identifies them. -/
class SortKey (κ : Type) where
  rank : κ → Nat
  rank_injective : ∀ {first second : κ}, rank first = rank second → first = second

export SortKey (rank)

instance : SortKey UInt8 where
  rank := UInt8.toNat
  rank_injective := UInt8.toNat_inj.mp

instance : SortKey UInt16 where
  rank := UInt16.toNat
  rank_injective := UInt16.toNat_inj.mp

instance : SortKey UInt32 where
  rank := UInt32.toNat
  rank_injective := UInt32.toNat_inj.mp

/-- Key and value pairs in strictly ascending key order. -/
@[ext] structure SortedMap (κ α : Type) [SortKey κ] where
  entries : Array (κ × α)
  ascending :
    entries.toList.Pairwise fun first second => rank first.1 < rank second.1

namespace SortedMap

variable {κ α β : Type} [SortKey κ]

instance [DecidableEq κ] [DecidableEq α] : DecidableEq (SortedMap κ α) :=
  fun first second =>
    decidable_of_iff (first.entries = second.entries)
      ⟨SortedMap.ext, congrArg entries⟩

instance [BEq κ] [BEq α] : BEq (SortedMap κ α) where
  beq first second := first.entries == second.entries

/-- The map without entries. -/
def empty : SortedMap κ α where
  entries := #[]
  ascending := List.Pairwise.nil

instance : Inhabited (SortedMap κ α) := ⟨empty⟩

/-- Entries in ascending key order. -/
def toList (map : SortedMap κ α) : List (κ × α) :=
  map.entries.toList

/-- Number of entries. -/
def size (map : SortedMap κ α) : Nat :=
  map.entries.size

/-- Whether the map has no entries. -/
def isEmpty (map : SortedMap κ α) : Bool :=
  map.entries.isEmpty

/-- Keys in ascending order. -/
def keys (map : SortedMap κ α) : List κ :=
  map.toList.map Prod.fst

/-- Values in ascending order of their keys. -/
def values (map : SortedMap κ α) : List α :=
  map.toList.map Prod.snd

/-- The entry with the smallest key. -/
def first? (map : SortedMap κ α) : Option (κ × α) :=
  map.entries[0]?

/--
Halves the interval between `low` and `high` until it is empty, keeping smaller
keys to its left.  The first argument bounds the number of halvings.
-/
def bisect
    (entries : Array (κ × α))
    (key : κ) :
    Nat → Nat → Nat → Nat
  | 0, low, _ => low
  | rounds + 1, low, high =>
      if low < high then
        let middle := (low + high) / 2
        if inside : middle < entries.size then
          if rank entries[middle].1 < rank key then
            bisect entries key rounds (middle + 1) high
          else
            bisect entries key rounds low middle
        else
          low
      else
        low

/-- Number of entries whose key is below the given one. -/
def position (map : SortedMap κ α) (key : κ) : Nat :=
  bisect map.entries key map.size 0 map.size

/-- Entries at smaller indices have smaller keys. -/
theorem rank_lt_rank
    (map : SortedMap κ α)
    {first second : Nat}
    (before : first < second)
    (inside : second < map.entries.size) :
    rank map.entries[first].1 < rank map.entries[second].1 := by
  have pairs := List.pairwise_iff_getElem.mp map.ascending
  have ordered := pairs first second
    (by simpa using Nat.lt_trans before inside) (by simpa using inside) before
  simpa using ordered

private theorem bisect_spec
    (map : SortedMap κ α)
    (key : κ)
    (rounds low high : Nat)
    (enough : high - low ≤ rounds)
    (lowHigh : low ≤ high)
    (highSize : high ≤ map.entries.size)
    (below : ∀ index (inside : index < map.entries.size),
      index < low → rank map.entries[index].1 < rank key)
    (above : ∀ index (inside : index < map.entries.size),
      high ≤ index → rank key ≤ rank map.entries[index].1) :
    let found := bisect map.entries key rounds low high
    found ≤ map.entries.size ∧
      ∀ index (inside : index < map.entries.size),
        index < found ↔ rank map.entries[index].1 < rank key := by
  induction rounds generalizing low high with
  | zero =>
      have sameBounds : low = high := by omega
      subst sameBounds
      refine ⟨highSize, fun index inside => ⟨below index inside, fun smaller => ?_⟩⟩
      have notAbove := above index inside
      simp only [bisect]
      omega
  | succ rounds inductionHypothesis =>
      by_cases nonempty : low < high
      · have middleInside : (low + high) / 2 < map.entries.size := by omega
        simp only [bisect, nonempty, if_true, middleInside, dif_pos]
        split
        next smaller =>
          refine inductionHypothesis _ _ (by omega) (by omega) highSize ?_ above
          intro index inside indexBelow
          by_cases isMiddle : index = (low + high) / 2
          · subst isMiddle
            exact smaller
          · exact Nat.lt_trans
              (map.rank_lt_rank (by omega) middleInside) smaller
        next notSmaller =>
          refine inductionHypothesis _ _ (by omega) (by omega) (by omega) below ?_
          intro index inside indexAbove
          by_cases isMiddle : index = (low + high) / 2
          · subst isMiddle
            omega
          · have middleBefore : (low + high) / 2 < index := by omega
            have := map.rank_lt_rank middleBefore inside
            omega
      · have sameBounds : low = high := by omega
        subst sameBounds
        simp only [bisect, Nat.lt_irrefl, if_false]
        refine ⟨highSize, fun index inside => ⟨below index inside, fun smaller => ?_⟩⟩
        have notAbove := above index inside
        omega

/-- The search never leaves the map. -/
theorem position_le_size
    (map : SortedMap κ α)
    (key : κ) :
    map.position key ≤ map.entries.size :=
  (bisect_spec map key map.size 0 map.size (by omega) (Nat.zero_le _)
    (Nat.le_refl _) (by omega) (by simp only [size]; omega)).1

/-- Exactly the keys below the given one lie to the left of its position. -/
theorem lt_position_iff
    (map : SortedMap κ α)
    (key : κ)
    {index : Nat}
    (inside : index < map.entries.size) :
    index < map.position key ↔ rank map.entries[index].1 < rank key :=
  (bisect_spec map key map.size 0 map.size (by omega) (Nat.zero_le _)
    (Nat.le_refl _) (by omega) (by simp only [size]; omega)).2 index inside

/-- The value stored under a key. -/
def get? (map : SortedMap κ α) (key : κ) : Option α :=
  match map.entries[map.position key]? with
  | some (found, value) => if rank found = rank key then some value else none
  | none => none

/-- Whether a key has a value. -/
def contains (map : SortedMap κ α) (key : κ) : Bool :=
  (map.get? key).isSome

/-- The entry with the smallest key above the given one. -/
def next? (map : SortedMap κ α) (key : κ) : Option (κ × α) :=
  match map.entries[map.position key]? with
  | some (found, value) =>
      if rank found = rank key then map.entries[map.position key + 1]?
      else some (found, value)
  | none => none

private theorem ascending_set
    (map : SortedMap κ α)
    {index : Nat}
    (inside : index < map.entries.size)
    (key : κ)
    (value : α)
    (sameKey : rank map.entries[index].1 = rank key) :
    (map.entries.set index (key, value)).toList.Pairwise
      fun first second => rank first.1 < rank second.1 := by
  rw [List.pairwise_iff_getElem]
  intro first second firstInside secondInside before
  simp only [Array.length_toList, Array.size_set] at firstInside secondInside
  have ordered := map.rank_lt_rank before secondInside
  simp only [Array.getElem_toList, Array.getElem_set]
  by_cases atFirst : index = first
  · subst atFirst
    have notSecond : ¬ index = second := by omega
    simp only [if_true, notSecond, if_false]
    omega
  · by_cases atSecond : index = second
    · subst atSecond
      simp only [atFirst, if_false, if_true]
      omega
    · simpa only [atFirst, atSecond, if_false] using ordered

private theorem insertIdx_eq_append
    (element : α)
    (list : List α)
    (index : Nat)
    (inside : index ≤ list.length) :
    list.insertIdx index element =
      list.take index ++ element :: list.drop index := by
  induction index generalizing list with
  | zero => simp
  | succ index inductionHypothesis =>
      cases list with
      | nil => simp at inside
      | cons head tail =>
          simp only [List.length_cons, Nat.add_le_add_iff_right] at inside
          simp [List.insertIdx_succ_cons, inductionHypothesis tail inside]

private theorem ascending_insertIdx
    (map : SortedMap κ α)
    (key : κ)
    (value : α)
    (absent : ∀ (inside : map.position key < map.entries.size),
      rank map.entries[map.position key].1 ≠ rank key) :
    (map.entries.insertIdx (map.position key) (key, value)
        (map.position_le_size key)).toList.Pairwise
      fun first second => rank first.1 < rank second.1 := by
  have splitEntries := map.ascending
  have positionLength : map.position key ≤ map.entries.toList.length := by
    simpa using map.position_le_size key
  rw [Array.toList_insertIdx, insertIdx_eq_append _ _ _ positionLength]
  rw [← List.take_append_drop (map.position key) map.entries.toList] at splitEntries
  rw [List.pairwise_append] at splitEntries
  obtain ⟨leftAscending, rightAscending, leftBelowRight⟩ := splitEntries
  rw [List.pairwise_append, List.pairwise_cons]
  have leftBelow : ∀ entry ∈ map.entries.toList.take (map.position key),
      rank entry.1 < rank key := by
    intro entry member
    obtain ⟨index, indexInside, rfl⟩ := List.getElem_of_mem member
    simp only [List.length_take, Array.length_toList] at indexInside
    simp only [List.getElem_take, Array.getElem_toList]
    exact (map.lt_position_iff key (by omega)).mp (by omega)
  have rightAbove : ∀ entry ∈ map.entries.toList.drop (map.position key),
      rank key < rank entry.1 := by
    intro entry member
    obtain ⟨index, indexInside, rfl⟩ := List.getElem_of_mem member
    simp only [List.length_drop, Array.length_toList] at indexInside
    simp only [List.getElem_drop, Array.getElem_toList]
    have here : map.position key < map.entries.size := by omega
    have different := absent here
    have notBelow : ¬ rank map.entries[map.position key].1 < rank key :=
      fun smaller => Nat.lt_irrefl _ ((map.lt_position_iff key here).mpr smaller)
    by_cases atStart : index = 0
    · subst atStart
      simp only [Nat.add_zero]
      omega
    · have positionBefore : map.position key < map.position key + index := by omega
      have := map.rank_lt_rank positionBefore (by omega)
      omega
  refine ⟨leftAscending, ⟨rightAbove, rightAscending⟩, ?_⟩
  intro before beforeMember after afterMember
  rcases List.mem_cons.mp afterMember with isNew | inRight
  · subst isNew
    exact leftBelow before beforeMember
  · exact leftBelowRight before beforeMember after inRight

/-- Stores a value under a key, replacing the one stored there before. -/
def insert
    (map : SortedMap κ α)
    (key : κ)
    (value : α) :
    SortedMap κ α :=
  if inside : map.position key < map.entries.size then
    if sameKey : rank map.entries[map.position key].1 = rank key then
      ⟨map.entries.set (map.position key) (key, value),
        map.ascending_set inside key value sameKey⟩
    else
      ⟨map.entries.insertIdx (map.position key) (key, value)
          (map.position_le_size key),
        map.ascending_insertIdx key value fun _ => sameKey⟩
  else
    ⟨map.entries.insertIdx (map.position key) (key, value)
        (map.position_le_size key),
      map.ascending_insertIdx key value fun here => absurd here inside⟩

/-- An entry after an insertion is the inserted one or was there before. -/
theorem mem_toList_of_mem_insert
    {map : SortedMap κ α}
    {key : κ}
    {value : α}
    {entry : κ × α}
    (member : entry ∈ (map.insert key value).toList) :
    entry = (key, value) ∨ entry ∈ map.toList := by
  have positionLength : map.position key ≤ map.entries.toList.length := by
    simpa using map.position_le_size key
  unfold insert at member
  split at member
  · split at member
    · simp only [toList, Array.toList_set] at member
      rcases List.mem_or_eq_of_mem_set member with wasThere | isNew
      · exact Or.inr wasThere
      · exact Or.inl isNew
    · simp only [toList, Array.toList_insertIdx] at member
      exact (List.mem_insertIdx positionLength).mp member
  · simp only [toList, Array.toList_insertIdx] at member
    exact (List.mem_insertIdx positionLength).mp member

/-- Keeps the entries that pass a test. -/
def filter
    (keep : κ → α → Bool)
    (map : SortedMap κ α) :
    SortedMap κ α where
  entries := map.entries.filter fun entry => keep entry.1 entry.2
  ascending := by
    rw [Array.toList_filter]
    exact map.ascending.filter _

/-- Drops a key. -/
def erase (map : SortedMap κ α) (key : κ) : SortedMap κ α :=
  map.filter fun other _ => rank other != rank key

/-- Changes every value and keeps the keys. -/
def map
    (change : α → β)
    (source : SortedMap κ α) :
    SortedMap κ β where
  entries := source.entries.map fun entry => (entry.1, change entry.2)
  ascending := by
    rw [Array.toList_map, List.pairwise_map]
    exact source.ascending

/-- Changes the value under one key, if there is one. -/
def modify
    (map : SortedMap κ α)
    (key : κ)
    (change : α → α) :
    SortedMap κ α :=
  match map.get? key with
  | some value => map.insert key (change value)
  | none => map

/-- Keeps the values that a partial function accepts. -/
def filterMap
    (change : α → Option β)
    (source : SortedMap κ α) :
    SortedMap κ β where
  entries := source.entries.filterMap fun entry =>
    (change entry.2).map fun value => (entry.1, value)
  ascending := by
    rw [Array.toList_filterMap]
    refine List.Pairwise.filterMap _ ?_ source.ascending
    intro first second ordered changedFirst firstShape changedSecond secondShape
    obtain ⟨_, _, rfl⟩ := Option.map_eq_some_iff.mp firstShape
    obtain ⟨_, _, rfl⟩ := Option.map_eq_some_iff.mp secondShape
    exact ordered

/-- Stores every pair of a list; a later pair replaces an earlier one. -/
def insertAll
    (map : SortedMap κ α)
    (pairs : List (κ × α)) :
    SortedMap κ α :=
  pairs.foldl (fun collected pair => collected.insert pair.1 pair.2) map

/-- The map that holds the pairs of a list. -/
def ofList (pairs : List (κ × α)) : SortedMap κ α :=
  empty.insertAll pairs

end SortedMap

end AdventureArchive
