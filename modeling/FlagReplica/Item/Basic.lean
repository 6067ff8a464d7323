import FlagReplica.Item.Kind
import FlagReplica.Json.Writer

/-!
# Items

An item is a decoded flag or segment. Decoding checks only the properties that keeping items in step
depends on, and the object is kept whole, so that an item can be written back unchanged. The checks
run in a fixed order, and the first that fails is the one reported; a deleted item needs no more
than its key and version.
-/

namespace FlagReplica

open Json (Shape Value Members)

/-- A decoded flag or segment. -/
structure Item where
  kind : Kind
  key : Text
  version : Int
  deleted : Bool
  /-- The keys of the flags that a flag depends on. -/
  prerequisites : List Text
  /-- The object that the item was decoded from. -/
  members : Members

/-- Why an object is no item. -/
inductive SchemaFault where
  | notObject (found : Shape)
  | missing (property : String)
  | wrongShape (property : String) (expected found : Shape)
  | wrongElement (property : String) (expected found : Shape)
deriving DecidableEq

/-- The wording of a fault. -/
def SchemaFault.text (fault : SchemaFault) : String :=
  "error in flag/segment data: " ++ match fault with
    | notObject found => s!"expected an object but got {found.word}"
    | missing property => s!"required property \"{property}\" is missing"
    | wrongShape property expected found =>
      s!"property \"{property}\" should be {expected.word} but was {found.word}"
    | wrongElement property expected found =>
      s!"property \"{property}\" should hold only {expected.word} but contained {found.word}"

/-! ## Properties of an object -/

/-- A property that may be absent or null, and otherwise has the expected shape. -/
def optional (members : Members) (property : String) (expected : Shape) :
    Except SchemaFault (Option Value) :=
  match Table.get? members property with
  | none | some .null => .ok none
  | some v =>
    if v.shape = expected then .ok (some v) else .error (.wrongShape property expected v.shape)

/-- A truth value that counts as false when it is absent or null. -/
def optionalFlag (members : Members) (property : String) : Except SchemaFault Bool := do
  match ← optional members property .boolean with
  | some (.boolean b) => return b
  | _ => return false

/-- A list that counts as empty when it is absent or null. -/
def optionalList (members : Members) (property : String) : Except SchemaFault (List Value) := do
  match ← optional members property .array with
  | some (.array items) => return items
  | _ => return []

/-- A list, empty when it is absent or null, that holds only items of one shape. -/
def optionalListOf (members : Members) (property : String) (expected : Shape) :
    Except SchemaFault (List Value) := do
  let items ← optionalList members property
  match items.find? (·.shape ≠ expected) with
  | some item => throw (.wrongElement property expected item.shape)
  | none => return items

/-- A text that must be there. -/
def requiredText (members : Members) (property : String) : Except SchemaFault Text := do
  match ← optional members property .text with
  | some (.text t) => return t
  | _ => throw (.missing property)

/-- An integer that must be there. -/
def requiredInteger (members : Members) (property : String) : Except SchemaFault Int := do
  match ← optional members property .integer with
  | some (.number (.integer n)) => return n
  | _ => throw (.missing property)

/-! ## Decoding -/

/-- The key of the flag that an entry in a list of prerequisites names. -/
def prerequisiteKey : Value → Except SchemaFault Text
  | .object members => requiredText members "key"
  | v => .error (.notObject v.shape)

/-- The checks of a live flag, which find the keys it depends on. -/
def checkFlag (members : Members) : Except SchemaFault (List Text) := do
  let _ ← optional members "on" .boolean
  let _ ← optionalList members "variations"
  let _ ← optionalListOf members "targets" .object
  let _ ← optionalListOf members "contextTargets" .object
  let _ ← optionalListOf members "rules" .object
  let prerequisites ← optionalListOf members "prerequisites" .object
  prerequisites.mapM prerequisiteKey

/-- The checks of a live segment, which depends on no other. -/
def checkSegment (members : Members) : Except SchemaFault (List Text) := do
  let _ ← optionalListOf members "included" .text
  let _ ← optionalListOf members "excluded" .text
  let _ ← optionalListOf members "includedContexts" .object
  let _ ← optionalListOf members "excludedContexts" .object
  let _ ← optionalListOf members "rules" .object
  return []

/-- The checks of a live item, which find the keys it depends on. -/
def Kind.checkLive : Kind → Members → Except SchemaFault (List Text)
  | flag => checkFlag
  | segment => checkSegment

/-- Decodes an item of a kind. -/
def Kind.decode (kind : Kind) : Value → Except SchemaFault Item
  | .object members => do
    let key ← requiredText members "key"
    let version ← requiredInteger members "version"
    let deleted ← optionalFlag members "deleted"
    let prerequisites ← if deleted then pure [] else kind.checkLive members
    return { kind, key, version, deleted, prerequisites, members }
  | v => .error (.notObject v.shape)

namespace Item

/-- The object that the item was decoded from. -/
def value (item : Item) : Value :=
  .object item.members

/-- Whether two items are of one kind and their objects mean the same. -/
def same (a b : Item) : Bool :=
  a.kind = b.kind && a.value.same b.value

/-- How an item is shown: the name of its type around the compact form of its object. -/
def shown (item : Item) : Text :=
  item.kind.typeName ++ "(" ++ Text.ofChars item.value.compact ++ ")"

end Item

end FlagReplica
