import FlagReplica.DataSet.Basic
import FlagReplica.Fault.Basic

/-!
# Payloads

Decoding of the payloads that sources receive: full data sets, and events about one item. A payload
comes as text, as octets, or already decoded; where text is expected to hold JSON, a text that is a
decoded value counts as text. All of a payload is decoded before anything is written to the store.
-/

namespace FlagReplica

open Json (Value Members)

/-- A payload as it is handed over. -/
inductive Payload where
  | text (t : Text)
  | octets (bytes : List UInt8)
  | value (v : Value)

/-- A new version of an item. The item is left undecoded: only a known path says of which kind it
is. -/
structure Patch where
  path : Text
  content : Value

/-- The deletion of an item at a version. -/
structure Removal where
  path : Text
  version : Int

namespace Payload

/-- What reading JSON text comes to. Only a misread text counts as invalid data. -/
def ofRead : Except Json.ReadError Value → Except Fault Value
  | .ok v => .ok v
  | .error (.misread m) => .error (.invalidData (.malformed m))
  | .error (.tooManyDigits count) => .error (.tooManyDigits count)

/-- The value that a payload holds. -/
def load : Payload → Except Fault Value
  | text t => ofRead (Json.read t)
  | octets bytes =>
    match Octets.decodeGuessed bytes with
    | .ok t => ofRead (Json.readDecoded t)
    | .error r => .error (.undecodable r)
  | value (.text t) => ofRead (Json.read t)
  | value v => .ok v

/-- The members of a value that has to be an object. -/
def membersOf (part : Part) : Value → Except Fault Members
  | .object members => .ok members
  | _ => .error (.invalidData (.notObject part))

/-- The descriptor of an item that a payload holds. -/
def descriptorOf (kind : Kind) (v : Value) : Except Fault Descriptor :=
  match kind.decode v with
  | .ok item => .ok (.ofItem item)
  | .error fault => .error (.invalidData (.badItem kind fault))

/-- The collection of a kind in the members of a full data set, empty if it is absent. -/
def collectionOf (members : Members) (kind : Kind) : Except Fault Collection := do
  let entries ← match Table.get? members (kind.collectionName : Text) with
    | some v => membersOf (.collection kind) v
    | none => pure []
  entries.mapM fun (key, v) => do
    let d ← descriptorOf kind v
    return (key, d)

/-- Decodes a full data set. -/
def toDataSet (payload : Payload) : Except Fault DataSet := do
  let members ← membersOf .dataSet (← payload.load)
  Kind.all.mapM fun kind => do
    let collection ← collectionOf members kind
    return (kind, collection)

/-- Decodes an event that brings a full data set, which may itself be JSON text. -/
def toPut (payload : Payload) : Except Fault DataSet := do
  let members ← membersOf (.message .put) (← payload.load)
  match Table.get? members ("data" : Text) with
  | some v => (value v).toDataSet
  | none => throw (.invalidData (.noData .put))

/-- The path of an event about one item. -/
def pathOf (m : Message) (members : Members) : Except Fault Text :=
  match Table.get? members ("path" : Text) with
  | some (.text path) => .ok path
  | _ => .error (.invalidData (.noPath m))

/-- Decodes an event that brings a new version of an item. -/
def toPatch (payload : Payload) : Except Fault Patch := do
  let members ← membersOf (.message .patch) (← payload.load)
  let path ← pathOf .patch members
  match Table.get? members ("data" : Text) with
  | some content => return { path, content }
  | none => throw (.invalidData (.noData .patch))

/-- Decodes an event that deletes an item. -/
def toRemoval (payload : Payload) : Except Fault Removal := do
  let members ← membersOf (.message .delete) (← payload.load)
  let path ← pathOf .delete members
  match Table.get? members ("version" : Text) with
  | some (.number (.integer version)) => return { path, version }
  | _ => throw (.invalidData .noVersion)

end Payload

end FlagReplica
