import FlagReplica.Settings.Application
import FlagReplica.Text.FormEncoding

/-!
# Settings

Which service to keep in step with, and how. `Options` are what the user asks for; `Settings` are
what comes of it: addresses without slashes at the end, an interval that is not too short, and an
application fit to be sent. The addresses of the two services and the headers of every request
follow from the settings alone.
-/

namespace FlagReplica

open Json (Value Members)

/-- The version of the library. -/
def libraryVersion : String := "1.0.0"

/-- The address of the service that answers polls, unless another is given. -/
def defaultBaseUri : String := "https://sdk.launchdarkly.com"

/-- The address of the streaming service, unless another is given. -/
def defaultStreamUri : String := "https://stream.launchdarkly.com"

/-- The fewest seconds between polls. -/
def leastPollInterval : Int := 30

/-- Network settings, kept as they were given. Timeouts are in seconds. -/
structure HttpSettings where
  connectTimeout : Value := .integer 10
  readTimeout : Value := .integer 15
  /-- The address of a proxy, or null for none. -/
  proxy : Value := .null
  /-- The file with the certificates to trust, or null for those that come along. -/
  certificates : Value := .null
  skipsVerification : Bool := false

/-- What the user asks for. What nothing looks at before it is used is kept as it was given. -/
structure Options where
  sdkKey : Value
  baseUri : Text := defaultBaseUri
  streamUri : Text := defaultStreamUri
  /-- Whether to stream; what does not count as yes asks for polls. -/
  stream : Value := .boolean true
  initialReconnectDelay : Value := .integer 1
  pollInterval : Number := .integer leastPollInterval
  /-- Which part of the flags and segments is wanted, or null for all. -/
  filter : Value := .null
  /-- Whether to go without telemetry. -/
  diagnosticOptOut : Value := .boolean false
  wrapperName : Value := .null
  wrapperVersion : Value := .null
  application : Members := []
  http : HttpSettings := {}

/-- What comes of the options. -/
structure Settings where
  sdkKey : Value
  baseUri : Text
  streamUri : Text
  stream : Value
  initialReconnectDelay : Value
  pollInterval : Number
  filter : Value
  diagnosticOptOut : Value
  wrapperName : Value
  wrapperVersion : Value
  application : Application
  http : HttpSettings

/-- Header fields by name. -/
abbrev Headers := Members

namespace Settings

/-- An address without slashes at its end. -/
def withoutSlashes (uri : Text) : Text :=
  uri.trimEnd (.scalar '/')

/-- The settings that options lead to, with warnings about what was dropped. -/
def ofOptions (o : Options) : Settings × List Notice :=
  let (application, notices) := Application.ofMembers o.application
  ({ sdkKey := o.sdkKey
     baseUri := withoutSlashes o.baseUri
     streamUri := withoutSlashes o.streamUri
     stream := o.stream
     initialReconnectDelay := o.initialReconnectDelay
     pollInterval :=
      if o.pollInterval.isBelow leastPollInterval then .integer leastPollInterval
      else o.pollInterval
     filter := o.filter
     diagnosticOptOut := o.diagnosticOptOut
     wrapperName := o.wrapperName
     wrapperVersion := o.wrapperVersion
     application
     http := o.http }, notices)

/-- Warnings about settings that cannot work. -/
def validate (s : Settings) : List Notice :=
  if s.sdkKey.isTruthy then [] else [.missingKey]

/-- Whether to stream rather than poll. -/
def streams (s : Settings) : Bool :=
  s.stream.isTruthy

/-- Whether to go without telemetry. -/
def withoutDiagnostics (s : Settings) : Bool :=
  s.diagnosticOptOut.isTruthy

/-! ## Addresses -/

/-- The query that selects a part of the flags and segments, if a filter is set. -/
def query (s : Settings) : Except SettingFault Text :=
  match s.filter with
  | .null => .ok []
  | filter =>
    match FormEncoding.encode filter.shown with
    | .ok encoded => .ok ("?filter=" ++ Text.ofChars encoded)
    | .error refusal => .error (.unencodable refusal)

/-- The address of the stream. -/
def streamAddress (s : Settings) : Except SettingFault Text := do
  return withoutSlashes s.streamUri ++ "/all" ++ (← s.query)

/-- The address of the full data set. -/
def pollAddress (s : Settings) : Except SettingFault Text := do
  return s.baseUri ++ "/sdk/latest-all" ++ (← s.query)

/-! ## Headers -/

/-- A text that is not empty. -/
def nonemptyText? : Value → Option Text
  | .text t => if t.isEmpty then none else some t
  | _ => none

/-- The name and version of a library around this one, if it gave its name. -/
def wrapper? (s : Settings) : Option Text := do
  let name ← nonemptyText? s.wrapperName
  match nonemptyText? s.wrapperVersion with
  | some version => return name ++ "/" ++ version
  | none => return name

/-- The headers that every request carries. A key that counts as none is sent as an empty one. -/
def baseHeaders (s : Settings) : Headers :=
  let tags := s.application.tags
  let always : Headers := [("Authorization", if s.sdkKey.isTruthy then s.sdkKey else .string ""),
    ("User-Agent", .string ("PythonClient/" ++ libraryVersion))]
  let aboutTags : Headers :=
    if tags.isEmpty then [] else [("X-LaunchDarkly-Tags", .text tags)]
  let aboutWrapper : Headers := match s.wrapper? with
    | some wrapper => [("X-LaunchDarkly-Wrapper", .text wrapper)]
    | none => []
  always ++ aboutTags ++ aboutWrapper

/-- The headers of a request that says what it sends. -/
def requestHeaders (s : Settings) : Headers :=
  s.baseHeaders ++ ([("Content-Type", .string "application/json")] : Headers)

/-- The headers of a request for the stream. -/
def streamHeaders (s : Settings) : Headers :=
  s.baseHeaders ++ ([("Accept", .string "text/event-stream")] : Headers)

end Settings

end FlagReplica
