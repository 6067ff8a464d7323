import FlagReplica.Settings.Basic

/-!
# Reading settings

Options given as an object. What is absent keeps its default. A member is refused only if something
has to be done with it at once that its shape does not allow; null then counts as a shape, not as
absence.
-/

namespace FlagReplica

open Json (Value Members)

namespace Options

/-- The options that there are. -/
def names : List String :=
  ["sdk_key", "base_uri", "stream_uri", "stream", "initial_reconnect_delay", "poll_interval",
    "feature_store", "payload_filter_key", "diagnostic_opt_out", "wrapper_name", "wrapper_version",
    "application", "http"]

/-- The options that there are about the network. -/
def httpNames : List String :=
  ["connect_timeout", "read_timeout", "http_proxy", "ca_certs", "disable_ssl_verification"]

/-- Refuses the first option that there is not. -/
def checkNames (owner : String) (known : List String) (members : Members) :
    Except SettingFault Unit :=
  match members.keys.find? fun name => !known.any fun k => (k : Text) = name with
  | some name => .error (.unknownOption owner name)
  | none => .ok ()

/-- An option as it was given, or its default. -/
def given (members : Members) (name : String) (default : Value) : Value :=
  (members.get? (name : Text)).getD default

/-- An address, whose end will be looked at. -/
def address : Value → Except SettingFault Text
  | .text t => .ok t
  | v => .error (.notAddress v.shape)

/-- A time that will be compared with a number of seconds. A truth value is less than any
interval. -/
def comparable : Value → Except SettingFault Number
  | .number n => .ok n
  | .boolean _ => .ok (.integer 0)
  | v => .error (.notComparable v.shape)

/-- Members that will be looked up. What counts as no stands for none. -/
def lookedUp (v : Value) : Except SettingFault Members :=
  match v with
  | .object members => .ok members
  | v => if v.isTruthy then .error (.notMembers v.shape) else .ok []

end Options

/-- The network settings that an object describes. -/
def HttpSettings.ofMembers (members : Members) : Except SettingFault HttpSettings := do
  Options.checkNames "HTTPConfig" Options.httpNames members
  let given := Options.given members
  let standard : HttpSettings := {}
  return {
    connectTimeout := given "connect_timeout" standard.connectTimeout
    readTimeout := given "read_timeout" standard.readTimeout
    proxy := given "http_proxy" .null
    certificates := given "ca_certs" .null
    skipsVerification := (given "disable_ssl_verification" (.boolean false)).isTruthy }

/-- The options that an object describes. -/
def Options.ofMembers (members : Members) : Except SettingFault Options := do
  let given := Options.given members
  let standard : Options := { sdkKey := .null }
  let http ← match given "http" .null with
    | .object inner => HttpSettings.ofMembers inner
    | _ => pure {}
  checkNames "Config" names members
  return {
    sdkKey := given "sdk_key" standard.sdkKey
    baseUri := ← address (given "base_uri" (.text standard.baseUri))
    streamUri := ← address (given "stream_uri" (.text standard.streamUri))
    stream := given "stream" standard.stream
    initialReconnectDelay := given "initial_reconnect_delay" standard.initialReconnectDelay
    pollInterval := ← comparable (given "poll_interval" (.number standard.pollInterval))
    filter := given "payload_filter_key" .null
    diagnosticOptOut := given "diagnostic_opt_out" standard.diagnosticOptOut
    wrapperName := given "wrapper_name" .null
    wrapperVersion := given "wrapper_version" .null
    application := ← lookedUp (given "application" .null)
    http }

end FlagReplica
