import FlagReplica.Audience

/-!
# The health of a store

Whether a store is available, and whether it may have missed updates. Until something else is
published the store counts as available and up to date. Listeners hear of changes only.
-/

namespace FlagReplica

/-- The health of a store. It is stale when it has just come back and may have missed updates. -/
structure Health where
  available : Bool
  stale : Bool
deriving DecidableEq

/-- The latest health, and who hears of changes. -/
structure HealthFeed where
  current : Health := ⟨true, false⟩
  audience : Audience Health

namespace HealthFeed

/-- A feed with a dispatcher, or without one. -/
def create (dispatcher : Option Text) : HealthFeed :=
  { audience := { typeName := fun _ => "DataStoreStatus", dispatcher } }

/-- Publishes a health. Its listeners hear of it if it is a change. -/
def publish (f : HealthFeed) (health : Health) : HealthFeed :=
  if health = f.current then f
  else { current := health, audience := f.audience.tell health }

end HealthFeed

end FlagReplica
