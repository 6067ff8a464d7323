import FlagReplica.DataSet.Basic

/-!
# Writing order

The order in which a full data set is handed to a store: kinds by ascending priority, and within a
kind each item after the items it depends on, as far as cycles allow. The walk over a collection is
depth first. It keeps the items not yet visited, the chain of items whose dependencies are being
visited, and the items already placed; an item leaves the first as it enters the second, so that a
cycle is cut where it closes. Kinds and items are arbitrary here.
-/

namespace FlagReplica.Order

variable {κ ι α : Type} [DecidableEq ι]

/-- An item on the chain, with those of its dependencies that are still to be looked at. -/
structure Link (ι α : Type) where
  key : ι
  content : α
  pending : List ι

/-- Walks on until every item has been placed. -/
def walk (dependencies : α → List ι) (remaining : Table ι α) (chain : List (Link ι α))
    (placed : Table ι α) : Table ι α :=
  match chain with
  | [] =>
    match remaining with
    | [] => placed
    | (key, content) :: remaining =>
      walk dependencies remaining [⟨key, content, dependencies content⟩] placed
  | ⟨key, content, []⟩ :: chain => walk dependencies remaining chain (placed ++ [(key, content)])
  | ⟨key, content, next :: pending⟩ :: chain =>
    match _found : remaining.get? next with
    | none => walk dependencies remaining (⟨key, content, pending⟩ :: chain) placed
    | some found =>
      walk dependencies (remaining.erase next)
        (⟨next, found, dependencies found⟩ :: ⟨key, content, pending⟩ :: chain) placed
termination_by (remaining.length, (chain.flatMap (·.pending)).length + chain.length)
decreasing_by
  · exact Prod.Lex.left _ _ (by simp)
  · exact Prod.Lex.right _ (by simp)
  · exact Prod.Lex.right _ (by simp)
  · exact Prod.Lex.left _ _ (by have := Table.length_erase ‹remaining.get? next = some _›; omega)

/-- The items of a collection, each after those it depends on. -/
def dependenciesFirst (dependencies : α → List ι) (collection : Table ι α) : Table ι α :=
  walk dependencies collection [] []

/-- A data set in writing order. Kinds of equal priority keep their order, and so do the items of a
kind without dependencies. -/
def arrange (priority : κ → Int) (dependencies? : κ → Option (α → List ι))
    (data : List (κ × Table ι α)) : List (κ × Table ι α) :=
  (data.mergeSort fun a b => priority a.1 ≤ priority b.1).map fun (kind, collection) =>
    match dependencies? kind with
    | some dependencies => (kind, dependenciesFirst dependencies collection)
    | none => (kind, collection)

end FlagReplica.Order

namespace FlagReplica

/-- The dependencies within a kind, if it has any. -/
def Kind.dependencies? (kind : Kind) : Option (Descriptor → List Text) :=
  if kind.hasDependencies then some Descriptor.dependencies else none

/-- A data set in the order in which it is handed to a store. -/
def DataSet.arranged (data : DataSet) : DataSet :=
  Order.arrange Kind.priority Kind.dependencies? data

end FlagReplica
