import FlagReplica.Change.Path
import FlagReplica.Change.Payload

/-!
# Changes

What a message asks for: a change to the store, or nothing when it is about an item of a kind that
is not known here. The path of a message is looked at before its item is decoded, since only a known
path says how to decode it.
-/

namespace FlagReplica

/-- A change to a store. -/
inductive Change where
  /-- Everything is replaced. -/
  | replace (data : DataSet)
  /-- One descriptor is written, if it is newer. -/
  | upsert (kind : Kind) (key : Text) (d : Descriptor)

/-- What a message asks for. -/
inductive Reading where
  | change (c : Change)
  /-- The path names no item of a known kind. -/
  | skip (m : Message) (path : Text)

/-- What a new version of an item asks for. -/
def Patch.reading (p : Patch) : Except Fault Reading :=
  match ItemPath.parse? p.path with
  | none => .ok (.skip .patch p.path)
  | some target =>
    match Payload.descriptorOf target.kind p.content with
    | .ok d => .ok (.change (.upsert target.kind target.key d))
    | .error fault => .error fault

/-- What the deletion of an item asks for: a tombstone. -/
def Removal.reading (r : Removal) : Reading :=
  match ItemPath.parse? r.path with
  | none => .skip .delete r.path
  | some target => .change (.upsert target.kind target.key (.tombstone r.version))

namespace Message

/-- The message of a name, if it is one of those that are decoded. -/
def ofName? (name : Text) : Option Message :=
  [put, patch, delete].find? fun m => name = m.word

/-- What a message with a payload asks for. -/
def read : Message → Payload → Except Fault Reading
  | put, payload => do return .change (.replace (← payload.toPut))
  | patch, payload => do (← payload.toPatch).reading
  | delete, payload => do return (← payload.toRemoval).reading

end Message

end FlagReplica
