import FlagReplica.Json.Value
import FlagReplica.Notice

/-!
# The application

The identity and version of the application that keeps the replica, sent along with every request. A
value that could not be sent is dropped with a warning, each of the two on its own account.
-/

namespace FlagReplica

/-- The identity and version of the application, empty where none was given or it was dropped. -/
structure Application where
  id : Text
  version : Text
deriving DecidableEq

namespace Application

/-- The most code points that a value may have. -/
def lengthLimit : Nat := 64

/-- The characters that a value may have: letters and digits of ASCII, and three marks. -/
def isAllowed : CodePoint → Bool
  | .scalar c => c.isAlphanum || c == '.' || c == '_' || c == '-'
  | .surrogate _ => false

/-- The value of a property as it will be sent, with a warning if one is dropped. What is no text
is dropped without one. -/
def keep (property : String) : Json.Value → Text × List Notice
  | .text t =>
    if t.length > lengthLimit then ([], [.applicationTooLong property])
    else if t.all isAllowed then (t, [])
    else ([], [.applicationInvalid property])
  | _ => ([], [])

/-- The application that an object describes. -/
def ofMembers (members : Json.Members) : Application × List Notice :=
  let given (property : String) := (members.get? (property : Text)).getD .null
  let (id, aboutId) := keep "id" (given "id")
  let (version, aboutVersion) := keep "version" (given "version")
  ({ id, version }, aboutId ++ aboutVersion)

/-- The tags that a request carries: a part for each value that is not empty, a space between
two. -/
def tags (a : Application) : Text :=
  let part (label : Text) (value : Text) : List Text :=
    if value.isEmpty then [] else [label ++ value]
  Text.joinWith " " (part "application-id/" a.id ++ part "application-version/" a.version)

end Application

end FlagReplica
