import FlagReplica.Store.Basic
import FlagReplica.Notice

/-!
# Repositories

What sources and readers use: anything that takes full data sets and single updates, answers
look-ups, and may fail at each. `Memory` is the store in memory on a medium that can be made to
fail; it keeps a record of the requests that reached it.
-/

namespace FlagReplica

/-- The answer to a request, what it left behind, and what it reported. -/
structure Reply (σ α : Type) where
  result : Except Fault α
  state : σ
  notices : List Notice

/-- What can be asked of a store. -/
class Repository (σ : Type) where
  init : σ → DataSet → Reply σ Unit
  upsert : σ → Kind → Text → Descriptor → Reply σ Bool
  get : σ → Kind → Text → Reply σ (Option Descriptor)
  all : σ → Kind → Reply σ Collection
  initialized : σ → Bool

/-- A request, as a repository received it. -/
inductive Request where
  | init (order : List (Kind × List Text))
  | upsert
  | get
  | all

/-- The store in memory, on a medium that refuses every request while it is out of order. -/
structure Memory where
  store : Store := {}
  outage : Option Fault := none
  requests : List Request := []

namespace Memory

/-- Records a request and answers it, unless the medium is out of order. -/
def serve {α : Type} (m : Memory) (request : Request) (answer : Store → α × Store) :
    Reply Memory α :=
  let m := { m with requests := m.requests ++ [request] }
  match m.outage with
  | some fault => ⟨.error fault, m, []⟩
  | none =>
    let (result, store) := answer m.store
    ⟨.ok result, { m with store }, []⟩

instance : Repository Memory where
  init m data :=
    m.serve (.init (data.map fun (kind, collection) => (kind, collection.keys)))
      fun _ => ((), Store.init data)
  upsert m kind key d := m.serve .upsert fun s => s.upsert kind key d
  get m kind key := m.serve .get fun s => (s.get? kind key, s)
  all m kind := m.serve .all fun s => (s.collection kind, s)
  initialized m := m.store.initialized

end Memory

end FlagReplica
