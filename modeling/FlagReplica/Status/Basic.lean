import FlagReplica.Fault.Basic

/-!
# Status

How far a source has got in keeping the store in step: its state, since when, and the latest
failure. `Status.next` is the rule by which a report changes the status.
-/

namespace FlagReplica

/-- Time in milliseconds. -/
abbrev Millis := Int

/-- The state of a source. `initializing` until a full data set has been stored; `interrupted` when
keeping in step worked and then failed in a way that is being retried; `off` for good. -/
inductive SyncState where
  | initializing
  | valid
  | interrupted
  | off
deriving DecidableEq

/-- The word for a state. -/
def SyncState.word : SyncState → String
  | initializing => "initializing"
  | valid => "valid"
  | interrupted => "interrupted"
  | off => "off"

/-- The state that a word stands for. -/
def SyncState.ofWord? (word : String) : Option SyncState :=
  [initializing, valid, interrupted, off].find? (·.word = word)

/-- The sorts of failure that a status tells apart. -/
inductive FailureKind where
  | unknown
  | network
  | response
  | data
  | store
deriving DecidableEq

/-- The word for a sort of failure. -/
def FailureKind.word : FailureKind → String
  | unknown => "unknown"
  | network => "network_error"
  | response => "error_response"
  | data => "invalid_data"
  | store => "store_error"

/-- The sort of failure that a word stands for. -/
def FailureKind.ofWord? (word : String) : Option FailureKind :=
  [unknown, network, response, data, store].find? (·.word = word)

/-- A failure as it is reported. The status code is zero unless a server answered with one. -/
structure Failure where
  kind : FailureKind
  statusCode : Int
  message : Option Text
deriving DecidableEq

namespace Failure

/-- What a fault is reported as. -/
def ofFault (fault : Fault) : Failure :=
  match fault with
  | .streamRejected status | .fetchRejected status =>
    ⟨.response, status, some (Rejection.description status)⟩
  | .invalidData _ | .misread _ => ⟨.data, 0, some fault.text⟩
  | .storeUpdate _ _ => ⟨.store, 0, some fault.text⟩
  | .network _ _ _ => ⟨.network, 0, some fault.text⟩
  | _ => ⟨.unknown, 0, some fault.text⟩

/-- How a failure is shown. -/
def shown (f : Failure) : Text :=
  let message : Text := match f.message with
    | some t => t.quoted
    | none => "None"
  "DataSourceErrorInfo(" ++ f.kind.word.map Char.toUpper ++ ", " ++ Text.ofInt f.statusCode ++ ", "
    ++ message ++ ")"

end Failure

/-- A failure on record. The serial number tells a new failure from a repeated one. -/
structure ErrorRecord where
  serial : Nat
  failure : Failure
  time : Millis
deriving DecidableEq

/-- The status of a source. The error is the latest failure, if there has been one; it outlives
changes of state. -/
structure Status where
  state : SyncState
  since : Millis
  error : Option ErrorRecord
deriving DecidableEq

namespace Status

/-- The status that a report of a state and perhaps an error leads to, if it changes anything.
There is nothing to interrupt before the first success or after the end, so an interruption then
keeps the state. The time of the state moves only when the state does. -/
def next (s : Status) (state : SyncState) (error : Option ErrorRecord) (now : Millis) :
    Option Status :=
  let state :=
    if state = .interrupted ∧ (s.state = .initializing ∨ s.state = .off) then s.state else state
  if state = s.state ∧ error = none then none
  else some
    { state
      since := if state = s.state then s.since else now
      error := if error = none then s.error else error }

/-- How a status is shown. -/
def shown (s : Status) : Text :=
  let error : Text := match s.error with
    | some record => record.failure.shown
    | none => "None"
  "DataSourceStatus(" ++ s.state.word.map Char.toUpper ++ ", " ++ error ++ ")"

end Status

end FlagReplica
