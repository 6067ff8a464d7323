import FlagReplica.Item.Descriptor

/-!
# Data sets

A full data set: for each kind the descriptors of its items by key, kinds and keys in order.
-/

namespace FlagReplica

/-- The descriptors of one kind by key. -/
abbrev Collection := Table Text Descriptor

/-- Collections by kind. -/
abbrev DataSet := Table Kind Collection

namespace DataSet

/-- The collection of a kind, empty if the data set has none. -/
def collection (data : DataSet) (kind : Kind) : Collection :=
  (data.get? kind).getD []

end DataSet

end FlagReplica
