import FlagReplica.Text.Basic
import FlagReplica.Number.Basic
import FlagReplica.Table

/-!
# JSON values

A value keeps the members of an object in order and tells integers from binary numbers, so that it
can be written back as it came. `Value.same` compares what values mean: objects as maps, numbers and
truth values by amount.
-/

namespace FlagReplica.Json

/-- A JSON value. -/
inductive Value where
  | null
  | boolean (b : Bool)
  | number (n : Number)
  | text (t : Text)
  | array (items : List Value)
  | object (members : List (Text × Value))

/-- The members of an object, in order. -/
abbrev Members := Table Text Value

/-- The seven kinds of JSON value, with the two sorts of number told apart. -/
inductive Shape where
  | null
  | boolean
  | integer
  | binary
  | text
  | array
  | object
deriving DecidableEq

/-- The word for a shape in messages. -/
def Shape.word : Shape → String
  | null => "NoneType"
  | boolean => "bool"
  | integer => "int"
  | binary => "float"
  | text => "str"
  | array => "list"
  | object => "dict"

namespace Value

instance : Inhabited Value := ⟨null⟩

/-- The shape of a value. -/
def shape : Value → Shape
  | null => .null
  | boolean _ => .boolean
  | number (.integer _) => .integer
  | number (.binary _) => .binary
  | text _ => .text
  | array _ => .array
  | object _ => .object

/-- The value of an integer. -/
abbrev integer (n : Int) : Value := number (.integer n)

/-- The value of a string of Unicode scalar values. -/
abbrev string (s : String) : Value := text s

/-- Whether a value counts as yes: nothing, zero and what is empty do not. -/
def isTruthy : Value → Bool
  | null => false
  | boolean b => b
  | number n => n.amount ≠ .zero
  | text t => !t.isEmpty
  | array items => !items.isEmpty
  | object members => !members.isEmpty

/-- The text that a value is. -/
def text? : Value → Option Text
  | text t => some t
  | _ => none

/-- The truth value that a value is. -/
def boolean? : Value → Option Bool
  | boolean b => some b
  | _ => none

/-- The amount that a number or a truth value stands for: true counts as one, false as zero. -/
def amount? : Value → Option Amount
  | number n => some n.amount
  | boolean b => some (Number.integer (if b then 1 else 0)).amount
  | _ => none

mutual

/-- Whether two values mean the same. -/
def same : Value → Value → Bool
  | null, null => true
  | boolean a, v => v.amount? = some (Number.integer (if a then 1 else 0)).amount
  | number a, v => v.amount? = some a.amount
  | text s, text t => s = t
  | array xs, array ys => sameItems xs ys
  | object xs, object ys => xs.length = ys.length && sameMembers xs ys
  | _, _ => false

/-- Whether two lists agree item by item. -/
def sameItems : List Value → List Value → Bool
  | [], [] => true
  | x :: xs, y :: ys => same x y && sameItems xs ys
  | _, _ => false

/-- Whether each member of the first object has one of the same name and meaning in the second. -/
def sameMembers : List (Text × Value) → List (Text × Value) → Bool
  | [], _ => true
  | (name, x) :: xs, ys =>
    (match Table.get? ys name with
      | some y => same x y
      | none => false) && sameMembers xs ys

end

end Value

end FlagReplica.Json
