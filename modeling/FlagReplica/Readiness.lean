/-!
# Readiness

A signal that is resolved at most once, as succeeded or as failed.
-/

namespace FlagReplica

/-- Whether and how a signal has been resolved. -/
inductive Readiness where
  | pending
  | succeeded
  | failed
deriving DecidableEq, Repr

namespace Readiness

/-- Resolves a pending signal; one that has been resolved stays as it is. Tells which it was. -/
def resolve (success : Bool) : Readiness → Bool × Readiness
  | pending => (true, if success then succeeded else failed)
  | resolved => (false, resolved)

/-- Whether the signal has been resolved. -/
def isResolved (r : Readiness) : Bool :=
  r ≠ pending

/-- How the signal has been resolved, if it has. -/
def success? : Readiness → Option Bool
  | pending => none
  | succeeded => some true
  | failed => some false

/-- A resolved signal is not resolved again. -/
theorem resolve_of_resolved {r : Readiness} (h : r ≠ pending) (success : Bool) :
    r.resolve success = (false, r) := by
  cases r with
  | pending => exact absurd rfl h
  | succeeded => rfl
  | failed => rfl

end Readiness

end FlagReplica
