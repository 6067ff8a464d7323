import FlagReplica.Item.Kind

/-!
# Paths

Events about one item name it by a path: the beginning that belongs to its kind, then its key. Every
other path, and one whose key is empty, is meant for a newer reader.
-/

namespace FlagReplica

/-- The item that a path names. -/
structure ItemPath where
  kind : Kind
  key : Text
deriving DecidableEq

namespace ItemPath

/-- The item that a path names, if it names one. -/
def parse? (path : Text) : Option ItemPath :=
  Kind.all.findSome? fun kind =>
    match Text.dropPrefix? kind.pathStart path with
    | some key@(_ :: _) => some ⟨kind, key⟩
    | _ => none

/-- The path of an item. -/
def path (p : ItemPath) : Text :=
  p.kind.pathStart ++ p.key

end ItemPath

end FlagReplica
