import FlagReplica.Text.Basic

/-!
# Rejections

An answer with an HTTP error status. Two statuses mean that the credentials will never be accepted,
and trying again is pointless.
-/

namespace FlagReplica.Rejection

/-- Whether a status means that the request was rejected. -/
def isRejection (status : Int) : Bool :=
  400 ≤ status

/-- Whether trying again can help. -/
def isRecoverable (status : Int) : Bool :=
  status ≠ 401 && status ≠ 403

/-- What a status is called in error records. -/
def description (status : Int) : Text :=
  if isRecoverable status then "HTTP error " ++ Text.ofInt status
  else "HTTP error " ++ Text.ofInt status ++ " (invalid SDK key)"

/-- What happens after a recoverable status. -/
def willRetry : Text := "will retry"

/-- What is said about a status: what was going on, and what follows from it. `retrying` tells what
happens after a recoverable one. -/
def report (status : Int) (activity retrying : Text) : Text :=
  let outcome : Text := if isRecoverable status then retrying else "giving up permanently"
  "Received " ++ description status ++ " for " ++ activity ++ " - " ++ outcome

end FlagReplica.Rejection
