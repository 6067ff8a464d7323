import FlagReplica.DataSet.Basic

/-!
# The store

The latest version of every item, in memory. An update counts only if its version is greater than
the one that is there, whether either is an item or a tombstone, so that the order in which updates
arrive and their repetition make no difference.
-/

namespace FlagReplica

/-- A store. -/
structure Store where
  initialized : Bool := false
  flags : Collection := []
  segments : Collection := []

namespace Store

/-- The collection of a kind. -/
def collection (s : Store) : Kind → Collection
  | .flag => s.flags
  | .segment => s.segments

/-- The store with another collection of a kind. -/
def setCollection (s : Store) (kind : Kind) (c : Collection) : Store :=
  match kind with
  | .flag => { s with flags := c }
  | .segment => { s with segments := c }

/-- The descriptor at a key, if there is one. -/
def get? (s : Store) (kind : Kind) (key : Text) : Option Descriptor :=
  (s.collection kind).get? key

/-- The store that holds a full data set and nothing else. -/
def init (data : DataSet) : Store :=
  { initialized := true
    flags := data.collection .flag
    segments := data.collection .segment }

/-- Whether a descriptor would replace what is stored at a key. -/
def isNewer (s : Store) (kind : Kind) (key : Text) (d : Descriptor) : Bool :=
  match s.get? kind key with
  | some old => old.version < d.version
  | none => true

/-- Writes a descriptor if it is newer, and tells whether it was. -/
def upsert (s : Store) (kind : Kind) (key : Text) (d : Descriptor) : Bool × Store :=
  if s.isNewer kind key d then (true, s.setCollection kind ((s.collection kind).insert key d))
  else (false, s)

@[simp] theorem collection_setCollection (s : Store) (kind other : Kind) (c : Collection) :
    (s.setCollection kind c).collection other = if kind = other then c else s.collection other := by
  cases kind <;> cases other <;> rfl

@[simp] theorem initialized_setCollection (s : Store) (kind : Kind) (c : Collection) :
    (s.setCollection kind c).initialized = s.initialized := by
  cases kind <;> rfl

/-- A write of one descriptor makes no store initialized. -/
theorem initialized_upsert {s : Store} {kind : Kind} {key : Text} {d : Descriptor} :
    (s.upsert kind key d).2.initialized = s.initialized := by
  unfold upsert
  split <;> simp

/-- A write is seen at its kind and key, if it is newer, and nowhere else. -/
theorem get?_upsert (s : Store) (kind other : Kind) (key key' : Text) (d : Descriptor) :
    (s.upsert kind key d).2.get? other key' =
      if s.isNewer kind key d ∧ kind = other ∧ key = key' then some d else s.get? other key' := by
  by_cases hn : s.isNewer kind key d
  · by_cases hk : kind = other
    · subst hk
      simp [upsert, hn, get?, Table.get?_insert]
    · simp [upsert, hn, get?, hk]
  · simp [upsert, hn]

end Store

end FlagReplica
