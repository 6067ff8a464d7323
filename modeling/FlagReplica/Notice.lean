import FlagReplica.Fault.Basic

/-!
# Notices

What the library reports while it works, by event. `Notice.level` says how grave an event is and
`Notice.text` words it.
-/

namespace FlagReplica

/-- How grave a notice is. -/
inductive Level where
  | info
  | warning
  | error
deriving DecidableEq

/-- The word for a level. -/
def Level.word : Level → String
  | info => "INFO"
  | warning => "WARNING"
  | error => "ERROR"

/-- Something worth reporting. -/
inductive Notice where
  -- The stream source.
  | streamStarting (uri : Text)
  | streamStopping
  | streamReady
  | eventUnknown (name : Text)
  | eventInvalid (fault : Fault)
  | eventNotStored (fault : Fault)
  | eventFailed (fault : Fault)
  | streamRejected (status : Int)
  | connectionFailed (fault : Fault)
  | refreshing
  -- The poll source.
  | pollStarting (interval : Number)
  | pollStopping
  | pollReady
  | pollRejected (status : Int)
  | pollNotStored (fault : Fault)
  | pollInvalid (fault : Fault)
  | pollFailed (fault : Fault)
  -- Changes and the store.
  | unknownPath (message : Message) (path : Text)
  | storeFailed (fault : Fault)
  | storeLost
  | storeRecovered
  | checkFailed (fault : Fault)
  -- The rest.
  | listenerFailed (valueType : Text) (fault : Fault)
  | runFailed (label : Text) (fault : Fault)
  | startedAgain
  | missingKey
  | applicationTooLong (property : Text)
  | applicationInvalid (property : Text)

namespace Notice

/-- How grave a notice is. A rejection is an error only if the source gives up over it. -/
def level : Notice → Level
  | streamStarting _ | streamStopping | streamReady | eventNotStored _ => .info
  | pollStarting _ | pollStopping | pollReady => .info
  | eventInvalid _ | eventFailed _ | pollInvalid _ | pollFailed _ | storeFailed _ => .error
  | checkFailed _ | listenerFailed _ _ | runFailed _ _ => .error
  | streamRejected status | pollRejected status =>
    if Rejection.isRecoverable status then .warning else .error
  | eventUnknown _ | connectionFailed _ | refreshing | pollNotStored _ | unknownPath _ _ => .warning
  | storeLost | storeRecovered | startedAgain | missingKey => .warning
  | applicationTooLong _ | applicationInvalid _ => .warning

/-- The wording of a notice. -/
def text : Notice → Text
  | streamStarting uri => "Starting StreamingDataSource connecting to uri: " ++ uri
  | streamStopping => "Stopping StreamingDataSource"
  | streamReady => "StreamingDataSource initialized ok."
  | eventUnknown name => "Unhandled event in stream processor: " ++ name
  | eventInvalid fault => "Invalid data in stream event; will restart stream: " ++ fault.text
  | eventNotStored fault => "Failed to store data from stream; will restart stream: " ++ fault.text
  | eventFailed fault =>
    "Unexpected error while handling stream event; will restart stream: " ++ fault.text
  | streamRejected status => Rejection.report status "stream connection" Rejection.willRetry
  | connectionFailed fault =>
    "Unexpected error on stream connection: " ++ fault.text ++ ", will retry"
  | refreshing => "Restarting stream to refresh data after data store outage"
  | pollStarting interval =>
    "Starting PollingDataSource with request interval: " ++ interval.shown
  | pollStopping => "Stopping PollingDataSource"
  | pollReady => "PollingDataSource initialized ok"
  | pollRejected status => Rejection.report status "polling request" Rejection.willRetry
  | pollNotStored fault => "Failed to store polled data; will retry at next poll: " ++ fault.text
  | pollInvalid fault =>
    "Invalid data in polling response; will retry at next poll: " ++ fault.text
  | pollFailed fault => "Error: Exception encountered when updating flags. " ++ fault.text
  | unknownPath .delete path => "Delete for unknown path: " ++ path
  | unknownPath _ path => "Patch for unknown path: " ++ path
  | storeFailed fault => "Failed to update data store: " ++ fault.text
  | storeLost =>
    "Detected persistent store unavailability; updates will be lost until it recovers"
  | storeRecovered => "Persistent store is available again"
  | checkFailed fault => "Unexpected error from data store status function: " ++ fault.text
  | listenerFailed valueType fault =>
    "Unexpected error in listener for " ++ valueType ++ ": " ++ fault.text
  | runFailed label fault => "Unexpected exception in " ++ label ++ ": " ++ fault.text
  | startedAgain => "DataSystem.start() was called more than once; ignoring"
  | missingKey => "Missing or blank sdk_key."
  | applicationTooLong property =>
    "Value of application[" ++ property ++ "] was longer than 64 characters and was discarded"
  | applicationInvalid property =>
    "Value of application[" ++ property ++ "] contained invalid characters and was discarded"

end Notice

end FlagReplica
