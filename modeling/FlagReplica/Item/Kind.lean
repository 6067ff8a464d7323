import FlagReplica.Text.Basic

/-!
# Kinds of item

Two kinds of item are kept: flags, and the segments that flags refer to. Each kind has its own name
in stores, its own collection in a full data set, and its own paths in events.
-/

namespace FlagReplica

/-- A kind of item. -/
inductive Kind where
  | flag
  | segment
deriving DecidableEq

namespace Kind

/-- All kinds, in the order in which paths and collections are tried. -/
def all : List Kind := [flag, segment]

/-- The name of the kind in stores and messages. -/
def namespaceName : Kind → String
  | flag => "features"
  | segment => "segments"

/-- The name of the kind's collection in a full data set. -/
def collectionName : Kind → String
  | flag => "flags"
  | segment => "segments"

/-- How the paths of the kind's items begin. -/
def pathStart : Kind → String
  | flag => "/flags/"
  | segment => "/segments/"

/-- The name of the kind's item type. -/
def typeName : Kind → String
  | flag => "FeatureFlag"
  | segment => "Segment"

/-- A kind of lower priority is written to a store first, so that what a flag refers to is there
before the flag. -/
def priority : Kind → Int
  | flag => 1
  | segment => 0

/-- Whether the items of the kind depend on others of the same kind. -/
def hasDependencies : Kind → Bool
  | flag => true
  | segment => false

end Kind

end FlagReplica
