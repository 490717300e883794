namespace AdventureArchive

/-!
# Sums that may not fit

A sum that does not fit its bits stops the addition or loses its high bits,
depending on how the addition is meant to treat it (`Overflow`).  Delays are added
in 32 bits, sizes in memory in 64.  Sums that fit are the same either way
(`add_of_stops`, `addSizes_of_fits`).
-/

/-- What becomes of an addition whose sum does not fit. -/
inductive Overflow where
  | stops
  | wraps
  deriving Repr, DecidableEq

namespace Overflow

/-- Adds two numbers of 32 bits; there is no sum where the addition stops. -/
def add (overflow : Overflow) (total term : UInt32) : Option UInt32 :=
  match overflow with
  | .stops =>
      if total.toNat + term.toNat < UInt32.size then some (total + term) else none
  | .wraps => some (total + term)

/-- Adding with stops gives the exact sum or none. -/
theorem add_stops_eq_some_iff {total term sum : UInt32} :
    stops.add total term = some sum ↔ sum.toNat = total.toNat + term.toNat := by
  rw [add]
  split
  next fits =>
    have exactSum : (total + term).toNat = total.toNat + term.toNat := by
      rw [UInt32.toNat_add, Nat.mod_eq_of_lt fits]
    rw [Option.some.injEq, ← UInt32.toNat_inj, exactSum, eq_comm]
  next tooGreat =>
    have bound : sum.toNat < UInt32.size := sum.toNat_lt_size
    simp only [reduceCtorEq, false_iff]
    omega

/-- An addition that does not stop has one sum. -/
theorem add_of_stops
    {total term sum : UInt32}
    (added : stops.add total term = some sum)
    (overflow : Overflow) :
    overflow.add total term = some sum := by
  cases overflow with
  | stops => exact added
  | wraps =>
      rw [add] at added
      split at added
      next => exact added
      next => contradiction

/-- Adds two sizes in memory; there is no sum where the addition stops. -/
def addSizes (overflow : Overflow) (size more : Nat) : Option Nat :=
  match overflow with
  | .stops => if size + more < UInt64.size then some (size + more) else none
  | .wraps => some ((size + more) % UInt64.size)

/-- Sizes whose sum fits have one sum. -/
theorem addSizes_of_fits
    {size more : Nat}
    (fits : size + more < UInt64.size)
    (overflow : Overflow) :
    overflow.addSizes size more = some (size + more) := by
  cases overflow with
  | stops => exact if_pos fits
  | wraps => rw [addSizes, Nat.mod_eq_of_lt fits]

end Overflow

end AdventureArchive
