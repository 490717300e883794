namespace AdventureArchive

/-!
# Deferred values

A deferred value is either computed already or still described by the source it
will be computed from.  Forcing it computes it at most once; from then on the
source plays no part any more.
-/

/-- A value that is computed on first use. -/
inductive Deferred (ι α : Type) where
  | pending (source : ι)
  | ready (value : α)
  deriving Repr, DecidableEq

namespace Deferred

variable {ι α : Type}

/-- Whether the value has been computed. -/
def isReady : Deferred ι α → Bool
  | .pending _ => false
  | .ready _ => true

/-- The value, computed from the source unless it has been computed before. -/
def value (compute : ι → α) : Deferred ι α → α
  | .pending source => compute source
  | .ready value => value

/-- The same deferred value after it has been used. -/
def force (compute : ι → α) (deferred : Deferred ι α) : Deferred ι α :=
  .ready (deferred.value compute)

/-- Using a value does not change it. -/
@[simp] theorem value_force
    (compute : ι → α)
    (deferred : Deferred ι α) :
    (deferred.force compute).value compute = deferred.value compute :=
  rfl

end Deferred

end AdventureArchive
