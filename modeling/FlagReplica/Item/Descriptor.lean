import FlagReplica.Item.Basic

/-!
# Descriptors

What a store holds for a key: a version, with an item or with none. A descriptor without an item is
a tombstone. It remembers that the item was deleted at that version, so that an older update that
arrives late cannot bring the item back.
-/

namespace FlagReplica

/-- A version with an item, or a tombstone at a version. -/
structure Descriptor where
  version : Int
  item : Option Item

namespace Descriptor

/-- The tombstone at a version. -/
def tombstone (version : Int) : Descriptor :=
  ⟨version, none⟩

/-- The descriptor of an item at its own version: a tombstone if the item says it is deleted. -/
def ofItem (item : Item) : Descriptor :=
  if item.deleted then tombstone item.version else ⟨item.version, some item⟩

/-- Whether the descriptor is a tombstone. -/
def deleted (d : Descriptor) : Bool :=
  d.item.isNone

/-- The keys that the descriptor's item depends on; a tombstone depends on nothing. -/
def dependencies (d : Descriptor) : List Text :=
  match d.item with
  | some item => item.prerequisites
  | none => []

/-- Whether two descriptors have one version and items that are the same. -/
def same (a b : Descriptor) : Bool :=
  a.version = b.version && match a.item, b.item with
    | some x, some y => x.same y
    | none, none => true
    | _, _ => false

/-- How a descriptor is shown. -/
def shown (d : Descriptor) : Text :=
  let item : Text := match d.item with
    | some item => item.shown
    | none => "None"
  "ItemDescriptor(version=" ++ Text.ofInt d.version ++ ", item=" ++ item ++ ")"

end Descriptor

end FlagReplica
