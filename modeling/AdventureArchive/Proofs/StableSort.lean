import Mathlib.Data.List.Perm.Basic

namespace AdventureArchive.StableSort

/-!
# What a stable sort remembers

A stable sort forgets the order of its input except among items that are alike,
that is, may stand in either order.  So it comes to the same on two lists with
the same items in which items that are alike stand in the same order
(`mergeSort_eq_of_perm`), in particular if a part of the list in which no two
items are alike is permuted (`mergeSort_append_of_perm`).
-/

variable {α : Type} {le : α → α → Bool}

/-- Whether two items may stand in either order. -/
def alike (le : α → α → Bool) (first second : α) : Bool :=
  le first second && le second first

theorem alike_iff
    {first second : α} :
    alike le first second = true ↔ le first second = true ∧ le second first = true := by
  rw [alike, Bool.and_eq_true]

variable
  (trans : ∀ first second third, le first second → le second third → le first third)
  (total : ∀ first second, le first second || le second first)

include trans

/-- Items that are alike to one item are alike to each other. -/
theorem alike_of_alike
    {item first second : α}
    (firstAlike : alike le item first = true)
    (secondAlike : alike le item second = true) :
    alike le first second = true := by
  rw [alike_iff] at *
  exact ⟨trans _ _ _ firstAlike.2 secondAlike.1, trans _ _ _ secondAlike.2 firstAlike.1⟩

include total

/-- Sorting keeps the order of the items that are alike to a given one. -/
theorem filter_mergeSort (item : α) (items : List α) :
    (items.mergeSort le).filter (alike le item) = items.filter (alike le item) := by
  have ordered : (items.filter (alike le item)).Pairwise fun first second =>
      le first second = true := by
    apply List.pairwise_of_forall_mem_list
    intro first inFirst second inSecond
    exact (alike_iff.mp (alike_of_alike trans
      (List.mem_filter.mp inFirst).2 (List.mem_filter.mp inSecond).2)).1
  have kept : (items.filter (alike le item)).Sublist (items.mergeSort le) :=
    List.sublist_mergeSort trans total ordered List.filter_sublist
  have keptAlike := kept.filter (alike le item)
  simp only [List.filter_filter, Bool.and_self] at keptAlike
  exact (keptAlike.eq_of_length ((List.mergeSort_perm items le).filter _).length_eq.symm).symm

omit trans in
/-- Sorted lists with the same items are the same if items that are alike stand in one order. -/
theorem eq_of_sorted
    {firsts seconds : List α}
    (firstsSorted : firsts.Pairwise fun first second => le first second = true)
    (secondsSorted : seconds.Pairwise fun first second => le first second = true)
    (permuted : firsts.Perm seconds)
    (sameAlike :
      ∀ item, firsts.filter (alike le item) = seconds.filter (alike le item)) :
    firsts = seconds := by
  induction firsts generalizing seconds with
  | nil => exact permuted.nil_eq
  | cons first rest inductionHypothesis =>
      cases seconds with
      | nil => exact permuted.eq_nil
      | cons second others =>
          have reflexive (item : α) : le item item = true := by simpa using total item item
          obtain ⟨firstLeast, restSorted⟩ := List.pairwise_cons.mp firstsSorted
          obtain ⟨secondLeast, othersSorted⟩ := List.pairwise_cons.mp secondsSorted
          -- Both heads are least, so they are alike, and the first of those alike is the same.
          have headsAlike : alike le first second = true := by
            rw [alike_iff]
            constructor
            · rcases List.mem_cons.mp (permuted.mem_iff.mpr List.mem_cons_self) with rfl | inRest
              · exact reflexive second
              · exact firstLeast second inRest
            · rcases List.mem_cons.mp (permuted.mem_iff.mp List.mem_cons_self) with rfl | inOthers
              · exact reflexive first
              · exact secondLeast first inOthers
          have firstAlike : alike le first first = true :=
            alike_iff.mpr ⟨reflexive first, reflexive first⟩
          have sameFirst := sameAlike first
          rw [List.filter_cons_of_pos firstAlike, List.filter_cons_of_pos headsAlike] at sameFirst
          obtain ⟨rfl, -⟩ := List.cons.inj sameFirst
          have sameRest (item : α) :
              rest.filter (alike le item) = others.filter (alike le item) := by
            have sameItem := sameAlike item
            simp only [List.filter_cons] at sameItem
            split at sameItem
            · exact (List.cons.inj sameItem).2
            · exact sameItem
          rw [inductionHypothesis restSorted othersSorted permuted.cons_inv sameRest]

/-- Lists with the same items are sorted alike if items that are alike stand in one order. -/
theorem mergeSort_eq_of_perm
    {items others : List α}
    (permuted : items.Perm others)
    (sameAlike : ∀ item, items.filter (alike le item) = others.filter (alike le item)) :
    items.mergeSort le = others.mergeSort le := by
  apply eq_of_sorted total
  · exact List.pairwise_mergeSort trans total items
  · exact List.pairwise_mergeSort trans total others
  · exact ((List.mergeSort_perm items le).trans permuted).trans
      (List.mergeSort_perm others le).symm
  · intro item
    rw [filter_mergeSort trans total, filter_mergeSort trans total, sameAlike]

omit total in
/-- If no two items are alike, permuting them does not change which of them are alike to one. -/
theorem filter_eq_of_perm
    {items others : List α}
    (permuted : items.Perm others)
    (apart : items.Pairwise fun first second => alike le first second = false)
    (item : α) :
    items.filter (alike le item) = others.filter (alike le item) := by
  have othersApart : others.Pairwise fun first second => alike le first second = false := by
    refine permuted.pairwise apart ?_
    intro first second notAlike
    rwa [alike, Bool.and_comm]
  -- Items alike to one item are alike to each other, so at most one is left in either list.
  have lonely
      {list : List α}
      (listApart : list.Pairwise fun first second => alike le first second = false) :
      (list.filter (alike le item)).Pairwise fun _ _ => False := by
    refine (listApart.filter _).imp_of_mem ?_
    intro first second inFirst inSecond notAlike
    rw [alike_of_alike trans (List.mem_filter.mp inFirst).2 (List.mem_filter.mp inSecond).2]
      at notAlike
    contradiction
  exact (permuted.filter _).eq_of_pairwise (fun _ _ _ _ impossible _ => impossible.elim)
    (lonely apart) (lonely othersApart)

/-- Items no two of which are alike are sorted into other items in whatever order they come. -/
theorem mergeSort_append_of_perm
    {items others : List α}
    (permuted : items.Perm others)
    (apart : items.Pairwise fun first second => alike le first second = false)
    (before after : List α) :
    (before ++ items ++ after).mergeSort le = (before ++ others ++ after).mergeSort le := by
  apply mergeSort_eq_of_perm trans total
  · exact (permuted.append_left before).append_right after
  · intro item
    simp only [List.filter_append, filter_eq_of_perm trans permuted apart item]

end AdventureArchive.StableSort
