import FlagReplica.Settings.Duration
import FlagReplica.Settings.Basic
import FlagReplica.Status.Basic

/-!
# Telemetry

What is told about keeping in step: once, how it was set up, and from time to time, how attempts to
open the stream went. The recorded attempts are handed out with the next event and forgotten, and
each event begins where the one before ended.
-/

namespace FlagReplica

open Json (Value Members)

/-- An attempt to open the stream: when it began, how long it took, and whether it failed. -/
structure Attempt where
  start : Millis
  duration : Int
  failed : Bool
deriving DecidableEq

/-- The JSON form of an attempt. -/
def Attempt.value (a : Attempt) : Value :=
  .object [("timestamp", .integer a.start), ("durationMillis", .integer a.duration),
    ("failed", .boolean a.failed)]

/-- An event with the attempts recorded since the one before. -/
structure Report where
  created : Millis
  id : Value
  since : Millis
  attempts : List Attempt

/-- The attempts recorded since some time. -/
structure Telemetry where
  id : Value
  since : Millis
  attempts : List Attempt := []

namespace Telemetry

/-- Records an attempt. -/
def record (t : Telemetry) (a : Attempt) : Telemetry :=
  { t with attempts := t.attempts ++ [a] }

/-- Hands out what has been recorded and begins anew. -/
def flush (t : Telemetry) (now : Millis) : Report × Telemetry :=
  ({ created := now, id := t.id, since := t.since, attempts := t.attempts },
    { t with since := now, attempts := [] })

end Telemetry

/-- An event: every one begins with its kind, when it was made, and whose it is. -/
def eventValue (kind : String) (created : Millis) (id : Value) (content : Members) : Value :=
  .object (("kind", .string kind) :: ("creationDate", .integer created) :: ("id", id) :: content)

/-- The JSON form of a report. -/
def Report.value (r : Report) : Value :=
  eventValue "diagnostic" r.created r.id
    [("dataSinceDate", .integer r.since), ("streamInits", .array (r.attempts.map Attempt.value))]

/-! ## The setup -/

/-- A component as far as it describes itself. -/
inductive Component where
  | absent
  | undescribed
  | described (text : Text)

/-- What a component is called; `standard` is the name of the one used where none is given. -/
def Component.describe (standard : Text) : Component → Text
  | absent => standard
  | undescribed => "custom"
  | described text => text

/-- The name of an operating system as it is told. -/
def systemName (name : Text) : Text :=
  if name = "Darwin" then "MacOS" else name

/-- The end of the key, which tells keys apart without giving one away. A list has an end too; what
has none is refused, unless it counts as no key. -/
def keySuffix (sdkKey : Value) : Except SettingFault Value :=
  match sdkKey with
  | .text t => .ok (.text (t.drop (t.length - 6)))
  | .array (first :: rest) => .ok (.array ((first :: rest).drop (rest.length - 5)))
  | v => if v.isTruthy then .error (.notSequence v.shape) else .ok (.string "")

/-- How keeping in step was set up. The times have to be such that they can be told. -/
def Settings.summary (s : Settings) (store : Component) : Except SettingFault Value := do
  let connectTimeout ← s.http.connectTimeout.milliseconds
  let readTimeout ← s.http.readTimeout.milliseconds
  let reconnectDelay ← s.initialReconnectDelay.milliseconds
  let pollInterval ← s.pollInterval.milliseconds
  return .object [
    ("customBaseURI", .boolean (s.baseUri ≠ defaultBaseUri)),
    ("customStreamURI", .boolean (s.streamUri ≠ defaultStreamUri)),
    ("connectTimeoutMillis", .integer connectTimeout),
    ("socketTimeoutMillis", .integer readTimeout),
    ("usingProxy", .boolean (s.http.proxy.shape ≠ .null)),
    ("streamingDisabled", .boolean !s.streams),
    ("reconnectTimeMillis", .integer reconnectDelay),
    ("pollingIntervalMillis", .integer pollInterval),
    ("usingPayloadFilter", .boolean (s.filter.shape ≠ .null)),
    ("dataStoreType", .text (store.describe "memory"))]

/-- The library and the one around it. -/
def Settings.librarySummary (s : Settings) : Value :=
  .object [("name", .string "flagsync"), ("version", .string libraryVersion),
    ("wrapperName", s.wrapperName), ("wrapperVersion", s.wrapperVersion)]

/-- The one event about the setup. What is told about the machine is given by `platform`. -/
def Settings.setupEvent (s : Settings) (created : Millis) (id : Value) (store : Component)
    (platform : Members) : Except SettingFault Value := do
  let summary ← s.summary store
  return eventValue "diagnostic-init" created id
    [("configuration", summary), ("sdk", s.librarySummary), ("platform", .object platform)]

end FlagReplica
