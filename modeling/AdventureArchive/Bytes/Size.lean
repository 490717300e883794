namespace AdventureArchive

/-!
# Sizes of lists

The size of things that stand one after the other is the sum of their sizes.
-/

variable {α : Type}

/-- The sum of the sizes of the items of a list. -/
def totalSize (size : α → Nat) (items : List α) : Nat :=
  items.foldr (fun item total => size item + total) 0

@[simp] theorem totalSize_nil (size : α → Nat) : totalSize size [] = 0 :=
  rfl

@[simp] theorem totalSize_cons
    (size : α → Nat)
    (item : α)
    (rest : List α) :
    totalSize size (item :: rest) = size item + totalSize size rest :=
  rfl

/-- Sizes of two lists add up. -/
@[simp] theorem totalSize_append
    (size : α → Nat)
    (items more : List α) :
    totalSize size (items ++ more) = totalSize size items + totalSize size more := by
  induction items with
  | nil => simp
  | cons item rest inductionHypothesis =>
      simp [inductionHypothesis, Nat.add_assoc]

end AdventureArchive
