import FlagReplica.Json.Writer
import FlagReplica.Text.Quoted

/-!
# Values in messages

How a value is shown in the wording of a message. A text stands for itself, but within a list or an
object it is quoted, so that its end can be seen.
-/

namespace FlagReplica

/-- How a number is shown. -/
def Number.shown : Number → Text
  | .binary (.infinite negative) => if negative then "-inf" else "inf"
  | .binary .notANumber => "nan"
  | n => Text.ofChars (Json.numeral n)

namespace Json.Value

mutual

/-- How a value is shown within another one. -/
def shownWithin : Value → Text
  | null => "None"
  | boolean b => if b then "True" else "False"
  | number n => n.shown
  | text t => t.quoted
  | array items => "[" ++ Text.joinWith ", " (shownItems items) ++ "]"
  | object members => "\x7b" ++ Text.joinWith ", " (shownMembers members) ++ "\x7d"

/-- How the items of a list are shown. -/
def shownItems : List Value → List Text
  | [] => []
  | v :: rest => shownWithin v :: shownItems rest

/-- How the members of an object are shown. -/
def shownMembers : List (Text × Value) → List Text
  | [] => []
  | (name, v) :: rest => (name.quoted ++ ": " ++ shownWithin v) :: shownMembers rest

end

/-- How a value is shown. -/
def shown : Value → Text
  | text t => t
  | v => v.shownWithin

end Json.Value

end FlagReplica
